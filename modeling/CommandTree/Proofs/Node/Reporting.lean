import CommandTree.Proofs.Node.Lockstep

/-!
# Flags and reports

A node may be marked optional, and it may be described.  Neither has to do with matching:
trees with the same *outline*, which differ in nothing else, take the same lines in the same
way (`flags_affect_reports_only`).

What the flag decides is whether an argument that cannot be read is reported as missing.  It
is, exactly where such an argument is tried and not marked optional.
-/

namespace CommandTree

/-- The diagnostic says that an argument is missing. -/
def Diagnostic.isMissing : Diagnostic → Bool
  | missingArgument _ => true
  | _ => false

theorem Diagnostic.IsRejection.isMissing_eq_false {diagnostic : Diagnostic}
    (h : diagnostic.IsRejection) : diagnostic.isMissing = false := by
  cases diagnostic <;> first | rfl | exact h.elim

/-- States with the same bindings and the same cursor are the same. -/
theorem Context.Matches.eq {context other : Context} (h : context.Matches Eq other) :
    other = context := by
  obtain ⟨cursor, bindings⟩ := context
  obtain ⟨place, found⟩ := other
  exact congrArg₂ Context.mk h.cursor.symm h.bindings_eq

namespace Node

variable {α : Type}

/-! ## Outlines -/

mutual

/-- The tree without the flags and the descriptions of its nodes. -/
def outline : Node α → Node α
  | ⟨kind, children, action, _, _⟩ => { kind, children := outlineAll children, action }

/-- The outlines of several trees. -/
def outlineAll : List (Node α) → List (Node α)
  | [] => []
  | node :: rest => outline node :: outlineAll rest

end

theorem outlineAll_eq_map (trees : List (Node α)) : outlineAll trees = trees.map outline := by
  induction trees with
  | nil => rfl
  | cons tree rest ih => rw [outlineAll, ih, List.map_cons]

/-- Trees have the same outline if their roots agree and those below have the same outlines. -/
theorem outline_eq_outline_iff {node other : Node α} :
    node.outline = other.outline ↔
      other.kind = node.kind ∧ other.action = node.action ∧
        List.Forall₂ (fun child counterpart => child.outline = counterpart.outline)
          node.children other.children := by
  obtain ⟨kind, children, action, optional, description⟩ := node
  obtain ⟨kind', children', action', optional', description'⟩ := other
  have hchildren : List.Forall₂ (fun child counterpart => outline child = outline counterpart)
      children children' ↔ children.map outline = children'.map outline := by
    rw [← List.forall₂_eq_eq_eq, List.forall₂_map_left_iff, List.forall₂_map_right_iff]
  simp only [outline, outlineAll_eq_map, Node.mk.injEq, hchildren, and_true]
  constructor
  · rintro ⟨rfl, hbelow, rfl⟩
    exact ⟨rfl, rfl, hbelow⟩
  · rintro ⟨rfl, rfl, hbelow⟩
    exact ⟨rfl, hbelow, rfl⟩

/-- Trees with the same outline have nodes with the same outline at the same addresses. -/
theorem exists_part?_of_outline_eq {node other part : Node α} {address : List Nat}
    (houtline : node.outline = other.outline) (hpart : node.part? address = some part) :
    ∃ counterpart, other.part? address = some counterpart ∧
      part.outline = counterpart.outline := by
  induction address generalizing node other with
  | nil =>
      obtain rfl := Option.some.inj hpart
      exact ⟨other, rfl, houtline⟩
  | cons position address ih =>
      obtain ⟨child, hchild, hbelow⟩ := Option.bind_eq_some_iff.mp hpart
      obtain ⟨hposition, rfl⟩ := List.getElem?_eq_some_iff.mp hchild
      have hchildren := (outline_eq_outline_iff.mp houtline).2.2
      have hposition' : position < other.children.length := hchildren.length_eq ▸ hposition
      have hchild' := hchildren.get hposition hposition'
      obtain ⟨counterpart, hcounterpart, hsame⟩ := ih hchild' hbelow
      refine ⟨counterpart, ?_, hsame⟩
      rw [part?, List.getElem?_eq_getElem hposition']
      exact hcounterpart

/-- Trees with the same outline are walked in step, whatever their argument types do. -/
theorem lockstep_outline (commands : List String) :
    Lockstep commands (fun node other : Node α => node.outline = other.outline) Eq Eq where
  kind_eq hnodes := (outline_eq_outline_iff.mp hnodes).1
  action_eq hnodes := (outline_eq_outline_iff.mp hnodes).2.1
  children hnodes := (outline_eq_outline_iff.mp hnodes).2.2
  consume? := by
    rintro node other token cursor _ - - rfl
    cases cursor.consume? token with
    | none => exact .none
    | some place => exact .some rfl
  read := by
    intro node other name type context state _ _ hstates
    obtain rfl := hstates.eq
    exact ⟨rfl, rfl, rfl, fun _ => rfl⟩
  weaken hplaces := hplaces
  stays := by
    rintro cursor _ rfl hopen
    exact hopen

end Node

/-! ## Reports of a visit -/

namespace Visit

variable {α : Type} {commands : List String}

theorem isMissing_of_mem_omission {visit : Visit α} {diagnostic : Diagnostic}
    (h : diagnostic ∈ visit.omission commands) : diagnostic.isMissing = true := by
  unfold omission at h
  split at h
  · split at h
    · obtain rfl := List.mem_singleton.mp h
      rfl
    · cases h
  · cases h

/-- Apart from arguments that are missing, a visit reports what the argument type does. -/
theorem filter_reports (visit : Visit α) :
    (visit.reports commands).filter (fun diagnostic => !diagnostic.isMissing) =
      (visit.findings commands).filter fun diagnostic => !diagnostic.isMissing := by
  have homission : (visit.omission commands).filter
      (fun diagnostic => !diagnostic.isMissing) = [] := by
    rw [List.filter_eq_nil_iff]
    intro diagnostic hmem
    simp [isMissing_of_mem_omission hmem]
  rw [reports, List.filter_append, homission, List.append_nil]

/-- If its type is disciplined, an argument is reported as missing by the walk alone. -/
theorem filter_isMissing_reports {visit : Visit α}
    (htypes : visit.node.AllTypes ArgumentType.Disciplined) :
    (visit.reports commands).filter Diagnostic.isMissing = visit.omission commands := by
  have hfindings : (visit.findings commands).filter Diagnostic.isMissing = [] := by
    rw [List.filter_eq_nil_iff]
    intro diagnostic hmem
    unfold findings at hmem
    split at hmem
    · next name type hkind =>
        have hrejection := (htypes.own hkind).rejections commands visit.context hmem
        simp [hrejection.isMissing_eq_false]
    · cases hmem
  have homission : (visit.omission commands).filter Diagnostic.isMissing =
      visit.omission commands := by
    rw [List.filter_eq_self]
    intro diagnostic hmem
    exact isMissing_of_mem_omission hmem
  rw [reports, List.filter_append, hfindings, homission, List.nil_append]

end Visit

namespace Node

variable {α : Type}

/-- In a tree with disciplined types an argument is reported as missing exactly where it is
tried, cannot be read and is not marked optional. -/
theorem filter_isMissing_diagnostics (commands : List String) {node : Node α}
    (htypes : node.AllTypes ArgumentType.Disciplined) (context : Context) :
    (node.walk commands context).diagnostics.filter Diagnostic.isMissing =
      (node.tour commands context).visits.flatMap (Visit.omission commands) := by
  rw [diagnostics_walk, List.filter_flatMap]
  apply List.flatMap_congr
  intro visit hvisit
  have hpart := mem_nodes_of_part? (part?_of_mem_visits hvisit)
  exact Visit.filter_isMissing_reports (htypes.of_mem_nodes hpart)

/-! ## Trees with the same outline -/

/-- Trees that differ only in flags and descriptions take the same lines, end in the same
state and fire the action of the same node.  They try the same nodes in the same order and
states, and report the same but for missing arguments.  Each of them reports an argument as
missing exactly where it is tried, cannot be read and is not marked optional by that tree;
what else is said of an argument is what its type reports. -/
theorem flags_affect_reports_only (commands : List String) {node other : Node α}
    (houtline : node.outline = other.outline) (context : Context) :
    let walk := node.walk commands context
    let twin := other.walk commands context
    let tour := node.tour commands context
    let twinTour := other.tour commands context
    twin.verdict = walk.verdict ∧ twin.context = walk.context ∧ twinTour.stop? = tour.stop? ∧
    (∀ address ∈ tour.stop?, ∃ part counterpart,
      node.part? address = some part ∧ other.part? address = some counterpart ∧
      part.outline = counterpart.outline ∧
      walk.fired = (part.action.map fun action => (action, walk.context)).toList ∧
      twin.fired = (counterpart.action.map fun action => (action, walk.context)).toList) ∧
    twin.diagnostics.filter (fun diagnostic => !diagnostic.isMissing) =
      walk.diagnostics.filter (fun diagnostic => !diagnostic.isMissing) ∧
    List.Forall₂ (Visit.Matches (fun part counterpart => part.outline = counterpart.outline) Eq)
      tour.visits twinTour.visits ∧
    ∀ tree ∈ [node, other],
      ((tree.walk commands context).diagnostics =
        (tree.tour commands context).visits.flatMap fun visit =>
          visit.findings commands ++ visit.omission commands) ∧
      (tree.AllTypes ArgumentType.Disciplined →
        (tree.walk commands context).diagnostics.filter Diagnostic.isMissing =
          (tree.tour commands context).visits.flatMap (Visit.omission commands)) := by
  intro walk twin tour twinTour
  have hstep : Lockstep commands
      (fun node other : Node α => node.outline = other.outline) Eq Eq :=
    lockstep_outline commands
  have hfollows : Walk.Follows (fun node other : Node α => node.outline = other.outline) Eq Eq
      (fun _ _ => False) walk twin tour twinTour := by
    apply hstep.follows_of_atEnd _ houtline ⟨rfl, rfl⟩
    rintro cursor _ rfl hend
    exact hend
  have hcontext : twin.context = walk.context :=
    Context.Matches.eq ⟨hfollows.bindings_eq, hfollows.cursor_of_start rfl⟩
  have hvisits := hfollows.forall₂_visits fun _ _ _ hlate => hlate
  refine ⟨hfollows.verdict_eq, hcontext, hfollows.stop?_eq, ?_, ?_, hvisits, ?_⟩
  · intro address hstop
    have hstop' : twinTour.stop? = some address := hfollows.stop?_eq.trans hstop
    obtain ⟨part, hpart, hfired⟩ := fired_of_stop? hstop
    obtain ⟨counterpart, hcounterpart, hfired'⟩ : ∃ counterpart,
        other.part? address = some counterpart ∧
        twin.fired = (counterpart.action.map fun action => (action, twin.context)).toList :=
      fired_of_stop? hstop'
    obtain ⟨same, hsame, houtlines⟩ := exists_part?_of_outline_eq houtline hpart
    obtain rfl := Option.some.inj (hsame.symm.trans hcounterpart)
    rw [hcontext] at hfired'
    exact ⟨part, same, hpart, hsame, houtlines, hfired, hfired'⟩
  · rw [diagnostics_walk, diagnostics_walk, List.filter_flatMap, List.filter_flatMap]
    apply flatMap_eq_of_forall₂ hvisits
    intro visit counterpart hmatch
    rw [Visit.filter_reports, Visit.filter_reports, hstep.findings_eq hmatch]
  · intro tree _
    exact ⟨diagnostics_walk commands tree context,
      fun htypes => filter_isMissing_diagnostics commands htypes context⟩

/-- A word with a small number or another word below it. -/
def annotatedTree (optional : Bool) (description : String) : Node Nat :=
  { kind := .literal "set"
    description
    children :=
      [{ kind := .argument "level" (.integer { maximum := some 9 })
         optional
         action := some 1 },
        { kind := .argument "name" (.text {}), optional := !optional, action := some 2 }] }

/-- A number that is too large is read as a word.  Both trees say why it is refused, and the
one that does not mark it optional says that it is missing, too. -/
theorem flags_affect_reports_on_large_number :
    let walk := (annotatedTree false "Set a level").walk [] (.start "set 12")
    let twin := (annotatedTree true "").walk [] (.start "set 12")
    (annotatedTree false "Set a level").outline = (annotatedTree true "").outline ∧
    twin.verdict = walk.verdict ∧ twin.context = walk.context ∧ walk.fired.map Prod.fst = [2] ∧
    walk.diagnostics = [.aboveMaximum 9, .missingArgument "level"] ∧
    twin.diagnostics = [.aboveMaximum 9] := by
  intro walk twin
  have houtline : (annotatedTree false "Set a level").outline = (annotatedTree true "").outline :=
    rfl
  obtain ⟨hverdict, hcontext, -⟩ := flags_affect_reports_only [] houtline (.start "set 12")
  refine ⟨houtline, hverdict, hcontext, ?_, ?_, ?_⟩ <;> decide +kernel

end Node

end CommandTree
