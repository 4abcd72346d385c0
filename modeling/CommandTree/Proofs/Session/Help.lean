import CommandTree.Proofs.Session.Commands

/-!
# Help on the commands of a session

The help on everything is the help on the registered trees, in the order in which they were
registered.  A command is looked up by its word, which no other tree has, so what it
contributes is the help on it alone.  A registration adds its tree at the end and leaves the
help on earlier commands as it was; a refused one changes nothing.
-/

namespace CommandTree

namespace Session

open Dispatcher

/-- The help on everything is made up of the help on the registered trees, in their order, and
each command contributes the help on it.  A registration adds the help on its tree at the end
and keeps the help on all commands before; a refused one adds nothing. -/
theorem help_joins_commands (linePrefix : String) (calls : List (Node Action)) :
    let dispatcher := dispatcherAfter linePrefix calls
    let trees := dispatcher.root.children
    trees.Sublist calls ∧
    dispatcher.help none = String.join (trees.map (Node.help "")) ∧
    (∀ token ∈ dispatcher.commands, ∃ front node back, trees = front ++ node :: back ∧
      node.literal? = some token ∧ (∀ other ∈ front ++ back, other.literal? ≠ some token) ∧
      node.help "" = dispatcher.help (some token)) ∧
    ((∀ node ∈ trees, node.literal?.isSome) → dispatcher.help none =
      String.join (dispatcher.commands.map fun token => dispatcher.help (some token))) ∧
    (∀ node next, dispatcher.register node = .ok next →
      dispatcherAfter linePrefix (calls ++ [node]) = next ∧
      next.root.children = trees ++ [node] ∧
      next.help none = dispatcher.help none ++ node.help "" ∧
      ∀ token ∈ dispatcher.commands, next.help (some token) = dispatcher.help (some token)) ∧
    ∀ node fault, dispatcher.register node = .error fault →
      dispatcherAfter linePrefix (calls ++ [node]) = dispatcher := by
  intro dispatcher trees
  have hsound : dispatcher.Sound := sound_dispatcherAfter linePrefix calls
  refine ⟨sublist_registered linePrefix calls, help_none_eq_join dispatcher, ?_,
    hsound.help_none_eq_join_commands, ?_, fun node fault => dispatcherAfter_concat_of_error⟩
  · intro token htoken
    obtain ⟨front, node, back, hregistered, hliteral, hothers⟩ := hsound.exists_literal htoken
    have htrees : trees = front ++ node :: back := hregistered
    have hnode : node ∈ trees := by simp [htrees]
    have hhelp := help_of_find? (hsound.find?_of_literal? hnode hliteral)
    exact ⟨front, node, back, htrees, hliteral, hothers, hhelp.symm⟩
  · intro node next hregister
    obtain ⟨-, hnext⟩ := register_eq_ok_iff.mp hregister
    refine ⟨dispatcherAfter_concat_of_ok hregister, ?_, ?_, ?_⟩
    · rw [hnext]
      rfl
    · rw [hnext, help_none_extend]
    · intro token htoken
      obtain ⟨found, hfind, -⟩ := hsound.exists_find? htoken
      rw [hnext, help_of_find? hfind, help_of_find? (find?_extend_of_eq_some hfind node)]

/-- A word with a word below it, the first word again, which is refused, and another word with
a text. -/
def helpCalls : List (Node Action) :=
  [{ kind := .literal "help"
     children := [{ kind := .literal "all", description := "Everything" }]
     description := "Show help" },
    { kind := .literal "help", description := "Show more help" },
    { kind := .literal "whoami"
      children := [{ kind := .argument "name" (.text {}), optional := true }] }]

/-- The help after these registrations is that on the two words, and a third word adds its own. -/
theorem help_joins_two_commands :
    let dispatcher := dispatcherAfter "/" helpCalls
    let third : Node Action := { kind := .literal "bye" }
    dispatcher.commands = ["help", "whoami"] ∧
    (∀ node ∈ dispatcher.root.children, node.literal?.isSome) ∧
    dispatcher.help none = dispatcher.help (some "help") ++ dispatcher.help (some "whoami") ∧
    dispatcher.help none =
      "help - Show help\n  all - Everything\nwhoami\n  <name> [optional]\n" ∧
    dispatcher.register third = .ok (dispatcher.extend third) ∧
    (dispatcherAfter "/" (helpCalls ++ [third])).help none = dispatcher.help none ++ "bye\n" := by
  intro dispatcher third
  have hcommands : dispatcher.commands = ["help", "whoami"] := by decide +kernel
  have hliterals : ∀ node ∈ dispatcher.root.children, node.literal?.isSome := by decide +kernel
  have hregister : dispatcher.register third = .ok (dispatcher.extend third) :=
    Dispatcher.register_eq_ok_iff.mpr ⟨by decide +kernel, rfl⟩
  obtain ⟨-, -, -, hjoin, hstep, -⟩ := help_joins_commands "/" helpCalls
  obtain ⟨hafter, -, hhelp, -⟩ := hstep third _ hregister
  refine ⟨hcommands, hliterals, ?_, by decide +kernel, hregister, ?_⟩
  · have htexts := hjoin hliterals
    rw [show (dispatcherAfter "/" helpCalls).commands = _ from hcommands] at htexts
    exact htexts.trans (by simp [dispatcher])
  · rw [hafter, hhelp]
    rfl

end Session

end CommandTree
