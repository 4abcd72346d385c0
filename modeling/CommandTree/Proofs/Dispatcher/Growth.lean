import CommandTree.Proofs.Dispatcher.Validation
import CommandTree.Proofs.Node.Growth
import CommandTree.Proofs.Node.Tour

/-!
# Dispatchers with one more node

A new node comes last among the registered trees, and if it is a literal its word becomes a
command.  A line that is taken without it is taken with it.  If neither the types nor the
actions of the older trees look at the dispatcher, nothing about such a line changes.
-/

namespace CommandTree

/-- The action depends on nothing but the state of matching, and asks for no further lines. -/
structure Action.IsLocal (action : Action) : Prop where
  contextOnly : ∀ {scene other : Scene}, scene.context = other.context →
    action scene = action other
  dispatchesNothing : ∀ scene line, .dispatch line ∉ action scene

/-- Showing an argument takes only the bindings. -/
theorem Action.isLocal_showText (name : String) : (Action.showText name).IsLocal where
  contextOnly := by
    intro scene other hcontext
    simp [showText, tell, hcontext]
  dispatchesNothing := by simp [showText, tell, Effect.send]

/-- What fires on a walk is the action of a node of the tree. -/
theorem Node.exists_mem_nodes_of_accepted {α : Type} {commands : List String} {node : Node α}
    {context : Context} {action : α}
    (h : (node.walk commands context).verdict = .accepted (some action)) :
    ∃ part ∈ node.nodes, part.action = some action := by
  rcases node.walk_stop?_cases commands context with
    ⟨hrefused, -⟩ | ⟨address, part, haccepted, -, hpart⟩
  · cases h.symm.trans hrefused
  · refine ⟨part, mem_nodes_of_part? hpart, ?_⟩
    exact Verdict.accepted.inj (haccepted.symm.trans h)

namespace Dispatcher

variable {dispatcher : Dispatcher Action} {node : Node Action} {line input : String}

theorem explore_extend_of_accepted {given : Option Action}
    (h : (dispatcher.root.walk (dispatcher.extend node).commands (.start input)).verdict =
      .accepted given) :
    (dispatcher.extend node).explore input =
      dispatcher.root.walk (dispatcher.extend node).commands (.start input) := by
  have hroot : dispatcher.root.walk (dispatcher.extend node).commands (.start input) =
      Node.walkAny (dispatcher.extend node).commands dispatcher.registered (.start input) := by
    simp [root, Node.root, Node.walk]
  rw [hroot] at h
  rw [explore_eq, hroot]
  exact Node.walkAny_append_of_accepted h [node]

/-- A line that is taken is taken with one more node. -/
theorem isAccepted_explore_extend (htypes : dispatcher.root.AllTypes ArgumentType.IsStandard)
    (h : (dispatcher.explore input).verdict.isAccepted = true) :
    ((dispatcher.extend node).explore input).verdict.isAccepted = true := by
  have hsubset : dispatcher.commands ⊆ (dispatcher.extend node).commands :=
    List.subset_append_left _ _
  have hlater := Node.isAccepted_mono hsubset htypes h
  cases hverdict : (dispatcher.root.walk (dispatcher.extend node).commands
      (.start input)).verdict with
  | refused => simp [hverdict, Verdict.isAccepted] at hlater
  | accepted given =>
      rw [explore_extend_of_accepted hverdict]
      exact hlater

/-- If no type uses the commands, a line that is taken is taken in the same way with one more
node. -/
theorem explore_extend_eq {given : Option Action}
    (htypes : dispatcher.root.AllTypes fun type => type.IsStandard ∧ ¬ type.UsesCommands)
    (h : (dispatcher.explore input).verdict = .accepted given) :
    (dispatcher.extend node).explore input = dispatcher.explore input := by
  have hsame : dispatcher.root.walk (dispatcher.extend node).commands (.start input) =
      dispatcher.explore input :=
    Node.walk_congr dispatcher.commands (dispatcher.extend node).commands htypes (.start input)
  rw [explore_extend_of_accepted (by rw [hsame, h]), hsame]

/-! ## Local actions -/

section

variable (hlocal : ∀ part ∈ dispatcher.root.nodes, ∀ action ∈ part.action, action.IsLocal)

include hlocal

theorem isLocal_of_mem_fired {firing : Action × Context}
    (hfired : firing ∈ dispatcher.fired line) : firing.1.IsLocal := by
  obtain ⟨input, -, hverdict, -⟩ := exists_input_of_mem_fired hfired
  obtain ⟨part, hpart, haction⟩ := Node.exists_mem_nodes_of_accepted hverdict
  exact hlocal part hpart firing.1 haction

/-- If all actions are local, no line asks for further lines. -/
theorem isSome_notice?_of_mem_respond {effect : Effect}
    (hmem : effect ∈ (dispatcher.respond line).effects) : effect.notice?.isSome := by
  cases effect with
  | notice notice => rfl
  | dispatch nested =>
      obtain ⟨firing, hfired, heffect⟩ := List.mem_flatMap.mp (dispatch_mem_firedEffects hmem)
      exact absurd heffect ((isLocal_of_mem_fired hlocal hfired).dispatchesNothing _ nested)

/-- A local action does the same on every dispatcher. -/
theorem firedEffects_congr {other : Dispatcher Action}
    (hfired : other.fired line = dispatcher.fired line) :
    other.firedEffects line = dispatcher.firedEffects line := by
  rw [firedEffects, firedEffects, hfired]
  apply List.flatMap_congr
  intro firing hmem
  exact (isLocal_of_mem_fired hlocal hmem).contextOnly rfl

/-- If neither types nor actions look at the dispatcher, a line that is taken fires the same
and is answered in the same way with one more node. -/
theorem respond_extend_eq {given : Option Action}
    (htypes : dispatcher.root.AllTypes fun type => type.IsStandard ∧ ¬ type.UsesCommands)
    (hinput : dispatcher.input? line = some input)
    (hverdict : (dispatcher.explore input).verdict = .accepted given) :
    (dispatcher.extend node).fired line = dispatcher.fired line ∧
      (dispatcher.extend node).respond line = dispatcher.respond line := by
  have hinput' : (dispatcher.extend node).input? line = some input := hinput
  have hexplore : (dispatcher.extend node).explore input = dispatcher.explore input :=
    explore_extend_eq htypes hverdict
  have hfired : (dispatcher.extend node).fired line = dispatcher.fired line := by
    rw [fired_of_input? hinput', fired_of_input? hinput, hexplore]
  refine ⟨hfired, ?_⟩
  rw [respond_of_accepted hinput' (by rw [hexplore, hverdict]),
    respond_of_accepted hinput hverdict, hexplore, firedEffects_congr hlocal hfired]

end

end Dispatcher

end CommandTree
