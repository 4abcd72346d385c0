import CommandTree.Proofs.Node.Fitness
import CommandTree.Proofs.Node.Path
import CommandTree.Proofs.Node.Refusals

/-!
# Tours

On a walk nodes are tried one after the other, each in some state of matching, until one
of them takes the line.  The *tour* of a walk lists these visits, with the addresses of the
nodes, and names the address of the node that takes the line, where the walk stops.

What a walk reports is what it reports on its visits (`diagnostics_walk`), and what it fires
is the action of the node where it stops (`fired_of_stop?`).
-/

namespace CommandTree

/-- A node that is tried, and the state of matching in which it is. -/
structure Visit (α : Type) where
  address : List Nat
  node : Node α
  context : Context

namespace Visit

variable {α : Type}

/-- A visit below the child at a position, as seen from the node above. -/
def below (position : Nat) (visit : Visit α) : Visit α :=
  { visit with address := position :: visit.address }

/-- What an argument type reports when it is asked to read a value. -/
def findings (commands : List String) (visit : Visit α) : List Diagnostic :=
  match visit.node.kind with
  | .argument _ type => (type.read commands visit.context).reports
  | _ => []

/-- The report that an argument is missing, which is made if it cannot be read and is not
optional. -/
def omission (commands : List String) (visit : Visit α) : List Diagnostic :=
  match visit.node.kind with
  | .argument name type =>
      if (type.read commands visit.context).value?.isNone && !visit.node.optional then
        [.missingArgument name]
      else []
  | _ => []

/-- All that is reported on a visit. -/
def reports (commands : List String) (visit : Visit α) : List Diagnostic :=
  visit.findings commands ++ visit.omission commands

end Visit

/-- The visits of a walk, in order, and the address where it stops. -/
structure Tour (α : Type) where
  visits : List (Visit α)
  stop? : Option (List Nat)

namespace Tour

variable {α : Type}

/-- The tour of the child at a position, as seen from the node above. -/
def below (position : Nat) (tour : Tour α) : Tour α :=
  { visits := tour.visits.map (Visit.below position)
    stop? := tour.stop?.map (position :: ·) }

end Tour

namespace Node

variable {α : Type}

mutual

/-- The tour of the walk of a tree. -/
def tour (commands : List String) : Node α → Context → Tour α
  | ⟨kind, children, action, optional, description⟩, context =>
    let node : Node α := ⟨kind, children, action, optional, description⟩
    match node.enter? commands context with
    | none => { visits := [⟨[], node, context⟩], stop? := none }
    | some next =>
      if node.closes next then { visits := [⟨[], node, context⟩], stop? := some [] }
      else
        let below := tourFrom commands 0 children next
        { visits := ⟨[], node, context⟩ :: below.visits
          stop? := below.stop?.or (node.fallback?.map fun _ => []) }

/-- The tour of the walk of siblings, the first of which has the position `start`. -/
def tourFrom (commands : List String) (start : Nat) : List (Node α) → Context → Tour α
  | [], _ => { visits := [], stop? := none }
  | node :: rest, context =>
    let first := (tour commands node context).below start
    let walk := node.walk commands context
    match walk.verdict with
    | .accepted _ => first
    | .refused =>
      let later := tourFrom commands (start + 1) rest walk.context
      { visits := first.visits ++ later.visits, stop? := later.stop? }

end

variable {commands : List String} {node : Node α} {context next : Context}

/-! ## One node -/

theorem tour_of_enter?_eq_none (henter : node.enter? commands context = none) :
    node.tour commands context = { visits := [⟨[], node, context⟩], stop? := none } := by
  obtain ⟨kind, children, action, optional, description⟩ := node
  simp only [tour, henter]

theorem tour_of_closes (henter : node.enter? commands context = some next)
    (hcloses : node.closes next = true) :
    node.tour commands context = { visits := [⟨[], node, context⟩], stop? := some [] } := by
  obtain ⟨kind, children, action, optional, description⟩ := node
  simp only [tour, henter, hcloses, if_true]

theorem tour_of_not_closes (henter : node.enter? commands context = some next)
    (hopen : node.closes next = false) :
    node.tour commands context =
      { visits := ⟨[], node, context⟩ :: (tourFrom commands 0 node.children next).visits
        stop? := (tourFrom commands 0 node.children next).stop?.or
          (node.fallback?.map fun _ => []) } := by
  obtain ⟨kind, children, action, optional, description⟩ := node
  simp only [tour, henter, hopen, Bool.false_eq_true, if_false]

/-! ## Siblings -/

theorem tourFrom_cons_of_accepted {given : Option α}
    (h : (node.walk commands context).verdict = .accepted given) (start : Nat)
    (rest : List (Node α)) :
    tourFrom commands start (node :: rest) context =
      (node.tour commands context).below start := by
  simp only [tourFrom, h]

theorem tourFrom_cons_of_refused (h : (node.walk commands context).verdict = .refused)
    (start : Nat) (rest : List (Node α)) :
    tourFrom commands start (node :: rest) context =
      { visits := ((node.tour commands context).below start).visits ++
          (tourFrom commands (start + 1) rest (node.walk commands context).context).visits
        stop? := (tourFrom commands (start + 1) rest
          (node.walk commands context).context).stop? } := by
  simp only [tourFrom, h]

/-- A tour that ends among the first siblings does not depend on those after them. -/
theorem tourFrom_append_of_accepted {front : List (Node α)} {given : Option α}
    (h : (walkAny commands front context).verdict = .accepted given) (start : Nat)
    (rest : List (Node α)) :
    tourFrom commands start (front ++ rest) context = tourFrom commands start front context := by
  induction front generalizing start context with
  | nil => simp [walkAny, Walk.refused] at h
  | cons tree front ih =>
      rw [List.cons_append]
      cases hfirst : (tree.walk commands context).verdict with
      | accepted given =>
          rw [tourFrom_cons_of_accepted hfirst, tourFrom_cons_of_accepted hfirst]
      | refused =>
          rw [walkAny_cons_of_refused hfirst] at h
          rw [tourFrom_cons_of_refused hfirst, tourFrom_cons_of_refused hfirst, ih h]

/-- A tour that does not stop at the first siblings stops where that of the others does. -/
theorem stop?_tourFrom_append_of_refused {front : List (Node α)}
    (h : (walkAny commands front context).verdict = .refused) (start : Nat)
    (rest : List (Node α)) :
    (tourFrom commands start (front ++ rest) context).stop? =
      (tourFrom commands (start + front.length) rest
        (walkAny commands front context).context).stop? := by
  induction front generalizing start context with
  | nil => rfl
  | cons tree front ih =>
      obtain ⟨hfirst, hlater⟩ := refused_of_walkAny_cons h
      rw [List.cons_append, tourFrom_cons_of_refused hfirst, walkAny_cons_of_refused hfirst,
        ih hlater, List.length_cons, Nat.add_assoc, Nat.add_comm 1 front.length]
      rfl

/-- Siblings none of which can be parsed are all tried, and nothing else is. -/
theorem walkAny_of_barred {trees : List (Node α)}
    (hbarred : ∀ tree ∈ trees,
      tree.enter? commands context = none ∧ tree.rebuffed commands context = context)
    (start : Nat) :
    (walkAny commands trees context).verdict = .refused ∧
      (walkAny commands trees context).context = context ∧
      (tourFrom commands start trees context).stop? = none ∧
      ∀ visit ∈ (tourFrom commands start trees context).visits,
        visit.context = context ∧ ∃ position, visit.address = [position] := by
  induction trees generalizing start with
  | nil => simp [walkAny, Walk.refused, tourFrom]
  | cons tree rest ih =>
      obtain ⟨henter, hback⟩ := hbarred tree List.mem_cons_self
      have hwalk := walk_of_enter?_eq_none henter
      rw [hback] at hwalk
      have hrefused : (tree.walk commands context).verdict = .refused := by
        rw [hwalk]
        rfl
      have hcontext : (tree.walk commands context).context = context := by
        rw [hwalk]
        rfl
      obtain ⟨hverdict, hlast, hstop, hvisits⟩ :=
        ih (fun other hother => hbarred other (List.mem_cons_of_mem tree hother)) (start + 1)
      rw [walkAny_cons_of_refused hrefused, tourFrom_cons_of_refused hrefused, hcontext,
        tour_of_enter?_eq_none henter]
      refine ⟨hverdict, hlast, hstop, ?_⟩
      intro visit hvisit
      rcases List.mem_append.mp hvisit with hfirst | hlater
      · obtain rfl : visit = ⟨[start], tree, context⟩ := List.mem_singleton.mp hfirst
        exact ⟨rfl, start, rfl⟩
      · exact hvisits visit hlater

/-! ## Where a walk stops -/

theorem walkAny_stop?_cases {trees : List (Node α)}
    (htrees : ∀ tree ∈ trees, ∀ context,
      ((tree.walk commands context).verdict = .refused ∧
        (tree.tour commands context).stop? = none) ∨
      ∃ address part, (tree.walk commands context).verdict = .accepted part.action ∧
        (tree.tour commands context).stop? = some address ∧
        tree.part? address = some part)
    (start : Nat) (context : Context) :
    ((walkAny commands trees context).verdict = .refused ∧
      (tourFrom commands start trees context).stop? = none) ∨
    ∃ (position : Nat) (tree : Node α) (address : List Nat) (part : Node α),
      trees[position]? = some tree ∧
      (walkAny commands trees context).verdict = .accepted part.action ∧
      (tourFrom commands start trees context).stop? = some ((start + position) :: address) ∧
      tree.part? address = some part := by
  induction trees generalizing start context with
  | nil => exact .inl ⟨rfl, rfl⟩
  | cons tree rest ih =>
      rcases htrees tree List.mem_cons_self context with
        ⟨hrefused, -⟩ | ⟨address, part, haccepted, hstop, hpart⟩
      · rw [walkAny_cons_of_refused hrefused, tourFrom_cons_of_refused hrefused]
        rcases ih (fun other hother => htrees other (List.mem_cons_of_mem tree hother))
            (start + 1) (tree.walk commands context).context with
          hnone | ⟨position, other, address, part, hother, hverdict, hstop, hpart⟩
        · exact .inl hnone
        · refine .inr ⟨position + 1, other, address, part, hother, hverdict, ?_, hpart⟩
          rw [hstop, Nat.add_assoc, Nat.add_comm 1 position]
      · rw [walkAny_cons_of_accepted haccepted, tourFrom_cons_of_accepted haccepted]
        refine .inr ⟨0, tree, address, part, rfl, haccepted, ?_, hpart⟩
        simp [Tour.below, hstop]

/-- A walk either fails and stops nowhere, or it stops at a node of the tree, which gives the
action. -/
theorem walk_stop?_cases (commands : List String) (node : Node α) (context : Context) :
    ((node.walk commands context).verdict = .refused ∧
      (node.tour commands context).stop? = none) ∨
    ∃ address part, (node.walk commands context).verdict = .accepted part.action ∧
      (node.tour commands context).stop? = some address ∧
      node.part? address = some part := by
  induction node using treeInduction generalizing context with
  | step node ih =>
      cases node.course commands context with
      | barred henter hwalk =>
          rw [hwalk, tour_of_enter?_eq_none henter]
          exact .inl ⟨rfl, rfl⟩
      | ended next henter hcloses hwalk =>
          rw [hwalk, tour_of_closes henter hcloses]
          exact .inr ⟨[], node, rfl, rfl, rfl⟩
      | handedOn next given henter hopen hbelow hwalk =>
          rw [hwalk, tour_of_not_closes henter hopen, Walk.verdict_after]
          rcases walkAny_stop?_cases ih 0 next with
            ⟨hrefused, -⟩ | ⟨position, child, address, part, hchild, hverdict, hstop, hpart⟩
          · simp [hrefused] at hbelow
          · refine .inr ⟨position :: address, part, hverdict, ?_, ?_⟩
            · simp [hstop]
            · simp [part?, hchild, hpart]
      | fellBack next action henter hopen hbelow hfallback hwalk =>
          rw [hwalk, tour_of_not_closes henter hopen]
          rcases walkAny_stop?_cases ih 0 next with
            ⟨-, hstop⟩ | ⟨_, _, _, part, -, haccepted, -⟩
          · refine .inr ⟨[], node, ?_, by simp [hstop, hfallback], rfl⟩
            simp [action_of_fallback? hfallback]
          · simp [haccepted] at hbelow
      | backedOut next henter hopen hbelow hfallback hwalk =>
          rw [hwalk, tour_of_not_closes henter hopen]
          rcases walkAny_stop?_cases ih 0 next with
            ⟨-, hstop⟩ | ⟨_, _, _, part, -, haccepted, -⟩
          · exact .inl ⟨hbelow, by simp [hstop, hfallback]⟩
          · simp [haccepted] at hbelow

theorem stop?_eq_none_of_refused (h : (node.walk commands context).verdict = .refused) :
    (node.tour commands context).stop? = none := by
  rcases node.walk_stop?_cases commands context with ⟨-, hnone⟩ | ⟨_, _, haccepted, -⟩
  · exact hnone
  · simp [h] at haccepted

/-- A walk of siblings either fails and stops nowhere, or it stops below one of them. -/
theorem stop?_tourFrom_cases (commands : List String) (start : Nat) (trees : List (Node α))
    (context : Context) :
    ((walkAny commands trees context).verdict = .refused ∧
      (tourFrom commands start trees context).stop? = none) ∨
    ∃ given position address, (walkAny commands trees context).verdict = .accepted given ∧
      position < trees.length ∧
      (tourFrom commands start trees context).stop? = some ((start + position) :: address) := by
  rcases walkAny_stop?_cases (fun tree _ context => tree.walk_stop?_cases commands context)
      start context with
    hrefused | ⟨position, tree, address, part, htree, hverdict, hstop, -⟩
  · exact .inl hrefused
  · obtain ⟨hposition, -⟩ := List.getElem?_eq_some_iff.mp htree
    exact .inr ⟨part.action, position, address, hverdict, hposition, hstop⟩

theorem stop?_tourFrom_eq_none_of_refused {trees : List (Node α)}
    (h : (walkAny commands trees context).verdict = .refused) (start : Nat) :
    (tourFrom commands start trees context).stop? = none := by
  rcases stop?_tourFrom_cases commands start trees context with
    ⟨-, hnone⟩ | ⟨_, _, _, haccepted, -⟩
  · exact hnone
  · simp [h] at haccepted

/-- A walk fires the action of the node where it stops, in the state in which it ends. -/
theorem fired_of_stop? {address : List Nat}
    (hstop : (node.tour commands context).stop? = some address) :
    ∃ part, node.part? address = some part ∧
      (node.walk commands context).fired =
        (part.action.map fun action => (action, (node.walk commands context).context)).toList := by
  rcases node.walk_stop?_cases commands context with
    ⟨-, hnone⟩ | ⟨other, part, hverdict, hother, hpart⟩
  · simp [hnone] at hstop
  · obtain rfl := Option.some.inj (hother.symm.trans hstop)
    exact ⟨part, hpart, by rw [Walk.fired, hverdict, Verdict.action?]⟩

/-- Walks of one tree that stop at the same address fire the action of the same node. -/
theorem fired_of_stop?_eq {state : Context}
    (hsame : (node.tour commands state).stop? = (node.tour commands context).stop?) :
    ∀ address ∈ (node.tour commands context).stop?, ∃ part,
      node.part? address = some part ∧
      (node.walk commands context).fired =
        (part.action.map fun action => (action, (node.walk commands context).context)).toList ∧
      (node.walk commands state).fired =
        (part.action.map fun action => (action, (node.walk commands state).context)).toList := by
  intro address hstop
  obtain ⟨part, hpart, hfired⟩ := fired_of_stop? hstop
  obtain ⟨other, hother, hfired'⟩ := fired_of_stop? (hsame.trans hstop)
  obtain rfl := Option.some.inj (hpart.symm.trans hother)
  exact ⟨part, hpart, hfired, hfired'⟩

/-! ## What is visited -/

theorem part?_of_mem_visits_tourFrom {trees : List (Node α)}
    (htrees : ∀ tree ∈ trees, ∀ context, ∀ visit ∈ (tree.tour commands context).visits,
      tree.part? visit.address = some visit.node)
    {start : Nat} {visit : Visit α}
    (hvisit : visit ∈ (tourFrom commands start trees context).visits) :
    ∃ (position : Nat) (tree : Node α) (address : List Nat),
      trees[position]? = some tree ∧ visit.address = (start + position) :: address ∧
      tree.part? address = some visit.node := by
  induction trees generalizing start context with
  | nil => simp [tourFrom] at hvisit
  | cons tree rest ih =>
      have hfirst : visit ∈ ((tree.tour commands context).below start).visits →
          ∃ (position : Nat) (other : Node α) (address : List Nat),
            (tree :: rest)[position]? = some other ∧
            visit.address = (start + position) :: address ∧
            other.part? address = some visit.node := by
        intro hmem
        obtain ⟨inner, hinner, rfl⟩ := List.mem_map.mp hmem
        have hpart := htrees tree List.mem_cons_self context inner hinner
        exact ⟨0, tree, inner.address, rfl, rfl, hpart⟩
      cases hverdict : (tree.walk commands context).verdict with
      | accepted given =>
          rw [tourFrom_cons_of_accepted hverdict] at hvisit
          exact hfirst hvisit
      | refused =>
          rw [tourFrom_cons_of_refused hverdict] at hvisit
          rcases List.mem_append.mp hvisit with hmem | hlater
          · exact hfirst hmem
          · obtain ⟨position, other, address, hother, haddress, hpart⟩ :=
              ih (fun other hother => htrees other (List.mem_cons_of_mem tree hother)) hlater
            refine ⟨position + 1, other, address, hother, ?_, hpart⟩
            rw [haddress, Nat.add_assoc, Nat.add_comm 1 position]

/-- What is visited at an address is the node there. -/
theorem part?_of_mem_visits {visit : Visit α}
    (hvisit : visit ∈ (node.tour commands context).visits) :
    node.part? visit.address = some visit.node := by
  induction node using treeInduction generalizing context visit with
  | step node ih =>
      cases henter : node.enter? commands context with
      | none =>
          rw [tour_of_enter?_eq_none henter] at hvisit
          obtain rfl := List.mem_singleton.mp hvisit
          rfl
      | some next =>
          cases hcloses : node.closes next with
          | true =>
              rw [tour_of_closes henter hcloses] at hvisit
              obtain rfl := List.mem_singleton.mp hvisit
              rfl
          | false =>
              rw [tour_of_not_closes henter hcloses] at hvisit
              rcases List.mem_cons.mp hvisit with rfl | hbelow
              · rfl
              · obtain ⟨position, child, address, hchild, haddress, hpart⟩ :=
                  part?_of_mem_visits_tourFrom
                    (fun child hchild _ _ hmem => ih child hchild hmem) hbelow
                rw [Nat.zero_add] at haddress
                simp [haddress, part?, hchild, hpart]

/-! ## What is reported -/

theorem reports_of_enter?_eq_none (henter : node.enter? commands context = none) :
    (⟨[], node, context⟩ : Visit α).reports commands = node.complaints commands context := by
  cases hkind : node.kind with
  | root => simp [Visit.reports, Visit.findings, Visit.omission, complaints, hkind]
  | literal token => simp [Visit.reports, Visit.findings, Visit.omission, complaints, hkind]
  | argument name type =>
      have hvalue : (type.read commands context).value? = none := by
        simpa [enter?, hkind] using henter
      cases hoptional : node.optional <;>
        simp [Visit.reports, Visit.findings, Visit.omission, complaints, hkind, hvalue, hoptional]

theorem reports_of_enter?_eq_some (henter : node.enter? commands context = some next) :
    (⟨[], node, context⟩ : Visit α).reports commands =
      (node.entryEvents commands context).filterMap Event.diagnostic? := by
  cases hkind : node.kind with
  | root => simp [Visit.reports, Visit.findings, Visit.omission, entryEvents, hkind]
  | literal token =>
      simp [Visit.reports, Visit.findings, Visit.omission, entryEvents, hkind,
        Event.diagnostic?]
  | argument name type =>
      obtain ⟨value, hvalue, -⟩ := exists_value_of_enter?_argument hkind henter
      simp [Visit.reports, Visit.findings, Visit.omission, entryEvents, hkind, hvalue,
        List.filterMap_map, Function.comp_def, Event.diagnostic?]

theorem flatMap_reports_below (commands : List String) (position : Nat) (tour : Tour α) :
    (tour.below position).visits.flatMap (Visit.reports commands) =
      tour.visits.flatMap (Visit.reports commands) := by
  rw [Tour.below, List.flatMap_map]
  rfl

theorem diagnostics_walkAny {trees : List (Node α)}
    (htrees : ∀ tree ∈ trees, ∀ context,
      (tree.walk commands context).diagnostics =
        (tree.tour commands context).visits.flatMap (Visit.reports commands))
    (start : Nat) (context : Context) :
    (walkAny commands trees context).diagnostics =
      (tourFrom commands start trees context).visits.flatMap (Visit.reports commands) := by
  induction trees generalizing start context with
  | nil => rfl
  | cons tree rest ih =>
      have hfirst := htrees tree List.mem_cons_self context
      cases hverdict : (tree.walk commands context).verdict with
      | accepted given =>
          rw [walkAny_cons_of_accepted hverdict, tourFrom_cons_of_accepted hverdict,
            flatMap_reports_below, hfirst]
      | refused =>
          have hlater := ih (fun other hother => htrees other (List.mem_cons_of_mem tree hother))
            (start + 1) (tree.walk commands context).context
          rw [walkAny_cons_of_refused hverdict, tourFrom_cons_of_refused hverdict,
            List.flatMap_append, flatMap_reports_below, ← hfirst, ← hlater]
          simp [Walk.diagnostics]

/-- A walk reports what it reports on its visits, in their order. -/
theorem diagnostics_walk (commands : List String) (node : Node α) (context : Context) :
    (node.walk commands context).diagnostics =
      (node.tour commands context).visits.flatMap (Visit.reports commands) := by
  induction node using treeInduction generalizing context with
  | step node ih =>
      cases node.course commands context with
      | barred henter hwalk =>
          rw [hwalk, tour_of_enter?_eq_none henter, List.flatMap_singleton,
            reports_of_enter?_eq_none henter]
          simp [Walk.diagnostics, Walk.refused, List.filterMap_map, Function.comp_def,
            Event.diagnostic?]
      | ended next henter hcloses hwalk =>
          rw [hwalk, tour_of_closes henter hcloses, List.flatMap_singleton,
            reports_of_enter?_eq_some henter]
          simp [Walk.diagnostics, Walk.accepted]
      | handedOn next _ henter hopen _ hwalk | fellBack next _ henter hopen _ _ hwalk
      | backedOut next henter hopen _ _ hwalk =>
          rw [hwalk, tour_of_not_closes henter hopen, List.flatMap_cons,
            reports_of_enter?_eq_some henter, ← diagnostics_walkAny ih 0 next]
          simp [Walk.diagnostics]

end Node

end CommandTree
