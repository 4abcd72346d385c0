import CommandTree.Proofs.Dispatcher.Commands
import CommandTree.Proofs.Session.Registration
import Mathlib.Data.List.Induction

/-!
# Reaching the commands of a session

A session has the trees that were registered in it, in this order, whatever came of others.
Whatever was registered, each command can be reached:
the line that consists of it is taken.  Trees before the command may take that line
themselves, but other literals do not.
-/

namespace CommandTree

open Text

namespace Session

/-- The dispatcher after nodes were registered on a fresh one, whatever came of each. -/
def dispatcherAfter (linePrefix : String) (calls : List (Node Action)) : Dispatcher Action :=
  (registerEach { dispatcher := { linePrefix } } calls).dispatcher

theorem inStep_registerEach (linePrefix : String) (calls : List (Node Action)) :
    (registerEach { dispatcher := { linePrefix } } calls).InStep linePrefix .buffer := by
  have hinit : InStep linePrefix .buffer { dispatcher := { linePrefix } } :=
    ⟨Dispatcher.sound_empty linePrefix, rfl, rfl⟩
  exact hinit.registerEach calls

theorem sound_dispatcherAfter (linePrefix : String) (calls : List (Node Action)) :
    (dispatcherAfter linePrefix calls).Sound :=
  (inStep_registerEach linePrefix calls).sound

theorem input?_dispatcherAfter (linePrefix input : String) (calls : List (Node Action)) :
    (dispatcherAfter linePrefix calls).input? (linePrefix ++ input) = some input := by
  have hprefix : (dispatcherAfter linePrefix calls).linePrefix = linePrefix :=
    (inStep_registerEach linePrefix calls).linePrefix_eq
  rw [Dispatcher.input?_eq_some_iff, hprefix]

/-! ## One more registration -/

section

variable {linePrefix : String} {calls : List (Node Action)} {node : Node Action}

theorem dispatcherAfter_concat (linePrefix : String) (calls : List (Node Action))
    (node : Node Action) :
    dispatcherAfter linePrefix (calls ++ [node]) =
      ((registerEach { dispatcher := { linePrefix } } calls).perform
        (.register node)).session.dispatcher := by
  rw [dispatcherAfter, registerEach, List.foldl_append]
  rfl

theorem dispatcherAfter_concat_of_ok {next : Dispatcher Action}
    (h : (dispatcherAfter linePrefix calls).register node = .ok next) :
    dispatcherAfter linePrefix (calls ++ [node]) = next := by
  obtain ⟨hfault, rfl⟩ := Dispatcher.register_eq_ok_iff.mp h
  have hadmits := Dispatcher.fault?_eq_none_iff.mp hfault
  rw [dispatcherAfter_concat, (perform_register_of_admits hadmits).2]
  rfl

theorem dispatcherAfter_concat_of_error {fault : RegistrationFault}
    (h : (dispatcherAfter linePrefix calls).register node = .error fault) :
    dispatcherAfter linePrefix (calls ++ [node]) = dispatcherAfter linePrefix calls := by
  have hrefused : ¬ (dispatcherAfter linePrefix calls).Admits node := by
    intro hadmits
    rw [Dispatcher.register, Dispatcher.fault?_eq_none_iff.mpr hadmits] at h
    contradiction
  obtain ⟨-, -, -, hsession⟩ := perform_register_of_not_admits hrefused
  rw [dispatcherAfter_concat, hsession, dispatcherAfter]

end

/-- The trees of a dispatcher are among those that were to be registered, in the same order. -/
theorem sublist_registered (linePrefix : String) (calls : List (Node Action)) :
    (dispatcherAfter linePrefix calls).root.children.Sublist calls := by
  induction calls using List.reverseRecOn with
  | nil => exact .refl []
  | append_singleton calls node ih =>
      cases hregister : (dispatcherAfter linePrefix calls).register node with
      | ok next =>
          obtain ⟨-, rfl⟩ := Dispatcher.register_eq_ok_iff.mp hregister
          rw [dispatcherAfter_concat_of_ok hregister]
          exact ih.append_right [node]
      | error fault =>
          rw [dispatcherAfter_concat_of_error hregister]
          exact ih.trans (List.sublist_append_left calls [node])

/-! ## Reaching a command -/

/-- A line that consists of a command, after any blanks, is executed; it runs to its end if
the lines do that its action asks for.  The command belongs to one registered tree.  If only
literals come before that, its own action fires and no other, with nothing bound and at the
end of the line, and nothing is reported, whatever is below. -/
theorem registered_command_is_reached (linePrefix : String) (calls : List (Node Action))
    {token blanks : String} (htoken : token ∈ (dispatcherAfter linePrefix calls).commands)
    (hblanks : ∀ c ∈ blanks.toList, isBlank c = true) :
    let dispatcher := dispatcherAfter linePrefix calls
    let input := blanks ++ token
    let line := linePrefix ++ input
    (dispatcher.respond line).outcome = .executed ∧
    (∀ depth, (∀ nested, .dispatch nested ∈ dispatcher.firedEffects line →
        ∃ run, dispatcher.run depth nested = some run) →
      ∃ run, dispatcher.run (depth + 1) line = some run ∧ run.outcome = .executed) ∧
    ∃ front node back, dispatcher.root.children = front ++ node :: back ∧
      node.literal? = some token ∧ (∀ other ∈ front ++ back, other.literal? ≠ some token) ∧
      ((∀ other ∈ front, other.literal?.isSome) →
        dispatcher.fired line =
          (node.action.map fun action => (action, ⟨⟨input.toList, []⟩, ∅⟩)).toList ∧
        (dispatcher.explore input).diagnostics = [] ∧
        (dispatcher.respond line).messages =
          (dispatcher.firedEffects line).filterMap Effect.message?) := by
  intro dispatcher input line
  have hsound : dispatcher.Sound := sound_dispatcherAfter linePrefix calls
  have hinput : dispatcher.input? line = some input :=
    input?_dispatcherAfter linePrefix input calls
  obtain ⟨front, node, back, hregistered, hliteral, hothers⟩ := hsound.exists_literal htoken
  have hfit : node.IsFit := hsound.fit node (by simp [Dispatcher.root, Node.root, hregistered])
  obtain ⟨given, hverdict⟩ :=
    Dispatcher.explore_command_accepted hregistered hfit hliteral hblanks
  have houtcome : (dispatcher.respond line).outcome = .executed := by
    rw [Dispatcher.respond_of_accepted hinput hverdict]
  refine ⟨houtcome, ?_, front, node, back, hregistered, hliteral, hothers, ?_⟩
  · intro depth hnested
    obtain ⟨run, hrun, hsame⟩ := Dispatcher.exists_run_succ hnested
    exact ⟨run, hrun, hsame.trans houtcome⟩
  · intro hliterals
    have hfront : ∀ other ∈ front, other.literal?.isSome ∧ other.literal? ≠ some token :=
      fun other hother => ⟨hliterals other hother, hothers other (List.mem_append_left back hother)⟩
    have hexplore :=
      Dispatcher.explore_command_of_literals hregistered hsound.fit hliteral hfront hblanks
    have hsilent : (dispatcher.explore input).diagnostics = [] := by
      rw [hexplore]
      rfl
    refine ⟨?_, hsilent, ?_⟩
    · rw [Dispatcher.fired_of_input? hinput, hexplore]
      rfl
    · rw [Dispatcher.messages_respond_of_accepted hinput hverdict, hsilent]
      rfl

/-- A word, a longer word that begins with it and has a number below, and the first word
again, which is refused. -/
def overlappingCalls : List (Node Action) :=
  [{ kind := .literal "go", action := some (.say .output "went") },
    { kind := .literal "gone"
      children := [{ kind := .argument "days" (.integer {}) }]
      action := some (.say .output "left") },
    { kind := .literal "go", action := some (.say .output "again") }]

/-- The line with the longer word, after two blanks, fires the action of that word alone. -/
theorem registered_command_is_reached_past_shorter_word :
    let dispatcher := dispatcherAfter "/" overlappingCalls
    "gone" ∈ dispatcher.commands ∧ (∀ c ∈ "\u3000 ".toList, isBlank c = true) ∧
    (dispatcher.respond ("/" ++ ("\u3000 " ++ "gone"))).outcome = .executed ∧
    (dispatcher.respond ("/" ++ ("\u3000 " ++ "gone"))).messages = [⟨.output, "left"⟩] := by
  intro dispatcher
  have htoken : "gone" ∈ dispatcher.commands := by decide +kernel
  have hblanks : ∀ c ∈ "\u3000 ".toList, isBlank c = true := List.all_eq_true.mp (by decide)
  have hliterals : ∀ node ∈ dispatcher.root.children, node.literal?.isSome = true := by
    decide +kernel
  have hsent : (dispatcher.firedEffects ("/" ++ ("\u3000 " ++ "gone"))).filterMap
      Effect.message? = [⟨.output, "left"⟩] := by
    decide +kernel
  obtain ⟨houtcome, -, front, node, back, hchildren, -, -, hreached⟩ :=
    registered_command_is_reached "/" overlappingCalls htoken hblanks
  obtain ⟨-, -, hmessages⟩ := hreached fun other hother =>
    hliterals other (hchildren ▸ List.mem_append_left _ hother)
  exact ⟨htoken, hblanks, houtcome, hmessages.trans hsent⟩

end Session

end CommandTree
