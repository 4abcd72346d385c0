import CommandTree.Proofs.Node.Tour
import Mathlib.Data.List.Forall2

/-!
# Walks in step

Two walks go in step if related nodes make the same of related states: they are both parsed
or both not, and what follows is related again (`Lockstep`).  From that it follows, by
induction on the tree, that the whole walks come out alike: the same nodes are visited in the
same order, in related states, and the walks stop at the same address.

The two may differ at the end of the line.  Where the first walk ends with a literal, the
second may go on to visit nodes below it, as long as it comes back; such visits are *late*.
What can be said of them is a parameter, and so is the way in which the second walk goes on.
-/

namespace CommandTree

variable {α : Type}

/-! ## Related states -/

/-- The states have the same bindings and stand at related places. -/
structure Context.Matches (K : Cursor → Cursor → Prop) (context other : Context) : Prop where
  bindings_eq : other.bindings = context.bindings
  cursor : K context.cursor other.cursor

/-- The readings differ in nothing but the places where they leave off. -/
structure Reading.Matches (L : Cursor → Cursor → Prop) (reading other : Reading) : Prop where
  value?_eq : other.value? = reading.value?
  reports_eq : other.reports = reading.reports
  bindings_eq : other.context.bindings = reading.context.bindings
  cursor : reading.value?.isSome = true → L reading.context.cursor other.context.cursor

/-- The visits are at the same address, of related nodes in related states. -/
structure Visit.Matches (S : Node α → Node α → Prop) (K : Cursor → Cursor → Prop)
    (visit other : Visit α) : Prop where
  address_eq : other.address = visit.address
  node : S visit.node other.node
  context : visit.context.Matches K other.context

/-- A walk with its tour follows another: it comes out alike, and after the same visits it
makes only late ones, which are told by the address where the walks stop. -/
structure Walk.Follows (S : Node α → Node α → Prop) (K L : Cursor → Cursor → Prop)
    (Late : List Nat → Visit α → Prop) (walk other : Walk α) (tour otherTour : Tour α) :
    Prop where
  verdict_eq : other.verdict = walk.verdict
  bindings_eq : other.context.bindings = walk.context.bindings
  cursor : walk.verdict.isAccepted = true → L walk.context.cursor other.context.cursor
  stop?_eq : otherTour.stop? = tour.stop?
  visits : ∃ front late, otherTour.visits = front ++ late ∧
    List.Forall₂ (Visit.Matches S K) tour.visits front ∧
    ∀ visit ∈ late, ∃ address ∈ tour.stop?, Late address visit

/-- Related nodes make the same of related states.  `K` relates the places before and `L` the
places after a literal or an argument is parsed. -/
structure Lockstep (commands : List String) (S : Node α → Node α → Prop)
    (K L : Cursor → Cursor → Prop) : Prop where
  kind_eq : ∀ {node other}, S node other → other.kind = node.kind
  action_eq : ∀ {node other}, S node other → other.action = node.action
  children : ∀ {node other}, S node other → List.Forall₂ S node.children other.children
  consume? : ∀ {node other token cursor place}, S node other → node.kind = .literal token →
    K cursor place → Option.Rel L (cursor.consume? token) (place.consume? token)
  read : ∀ {node other name type context state}, S node other →
    node.kind = .argument name type → Context.Matches K context state →
      Reading.Matches L (type.read commands context) (type.read commands state)
  weaken : ∀ {cursor place}, L cursor place → K cursor place
  stays : ∀ {cursor place}, L cursor place → cursor.atEnd = false → place.atEnd = false

namespace Walk.Follows

variable {S : Node α → Node α → Prop} {K L : Cursor → Cursor → Prop}
  {Late : List Nat → Visit α → Prop} {walk other : Walk α} {tour otherTour : Tour α}

/-- The tours still match as seen from the nodes above. -/
theorem below (h : Walk.Follows S K L Late walk other tour otherTour)
    (hbelow : ∀ {address visit} (position : Nat), Late address visit →
      Late (position :: address) (visit.below position))
    (position : Nat) :
    Walk.Follows S K L Late walk other (tour.below position) (otherTour.below position) where
  verdict_eq := h.verdict_eq
  bindings_eq := h.bindings_eq
  cursor := h.cursor
  stop?_eq := congrArg (Option.map (position :: ·)) h.stop?_eq
  visits := by
    obtain ⟨front, late, hvisits, hmatch, hlate⟩ := h.visits
    refine ⟨front.map (Visit.below position), late.map (Visit.below position), ?_, ?_, ?_⟩
    · simp [Tour.below, hvisits]
    · simp only [Tour.below, List.forall₂_map_left_iff, List.forall₂_map_right_iff]
      exact hmatch.imp fun visit other hboth =>
        ⟨congrArg (position :: ·) hboth.address_eq, hboth.node, hboth.context⟩
    · intro visit hvisit
      obtain ⟨inner, hinner, rfl⟩ := List.mem_map.mp hvisit
      obtain ⟨address, hstop, haddress⟩ := hlate inner hinner
      exact ⟨position :: address, by simp [Tour.below, Option.mem_def.mp hstop],
        hbelow position haddress⟩

/-- Where no visit can be late, all visits match. -/
theorem forall₂_visits (h : Walk.Follows S K L Late walk other tour otherTour)
    (hnone : ∀ address ∈ tour.stop?, ∀ visit, ¬ Late address visit) :
    List.Forall₂ (Visit.Matches S K) tour.visits otherTour.visits := by
  obtain ⟨front, late, hvisits, hmatch, hlate⟩ := h.visits
  obtain rfl : late = [] := by
    rw [List.eq_nil_iff_forall_not_mem]
    intro visit hvisit
    obtain ⟨address, hstop, haddress⟩ := hlate visit hvisit
    exact hnone address hstop visit haddress
  rw [hvisits, List.append_nil]
  exact hmatch

/-- The walks end at related places if they start at such, since a walk that fails ends where
it starts. -/
theorem cursor_of_start {commands : List String} {node counterpart : Node α}
    {context state : Context}
    (h : Walk.Follows S K L Late (node.walk commands context) (counterpart.walk commands state)
      tour otherTour)
    (hstart : L context.cursor state.cursor) :
    L (node.walk commands context).context.cursor
      (counterpart.walk commands state).context.cursor := by
  cases hverdict : (node.walk commands context).verdict with
  | accepted given => exact h.cursor (by rw [hverdict]; rfl)
  | refused =>
      have hcursor := Node.cursor_of_walk_refused hverdict
      have hcursor' := Node.cursor_of_walk_refused (h.verdict_eq.trans hverdict)
      rw [hcursor, hcursor']
      exact hstart

end Walk.Follows

namespace Lockstep

open Node

variable {commands : List String} {S : Node α → Node α → Prop} {K L : Cursor → Cursor → Prop}
  {Late : List Nat → Visit α → Prop} {node other : Node α} {context state : Context}

/-! ## One node -/

theorem fallback?_eq (h : Lockstep commands S K L) (hnodes : S node other) :
    other.fallback? = node.fallback? := by
  rw [fallback?, fallback?, h.kind_eq hnodes, h.action_eq hnodes]

/-- Related nodes are parsed alike. -/
theorem enter? (h : Lockstep commands S K L) (hnodes : S node other)
    (hstates : context.Matches K state) :
    (node.enter? commands context = none ∧ other.enter? commands state = none ∧
      (other.rebuffed commands state).bindings = (node.rebuffed commands context).bindings) ∨
    ∃ next place, node.enter? commands context = some next ∧
      other.enter? commands state = some place ∧ next.Matches K place ∧
      (node.kind ≠ .root → L next.cursor place.cursor) := by
  have hkind := h.kind_eq hnodes
  cases hown : node.kind with
  | root =>
      rw [hown] at hkind
      refine .inr ⟨context, state, ?_, ?_, hstates, by simp⟩
      · simp [Node.enter?, hown]
      · simp [Node.enter?, hkind]
  | literal token =>
      rw [hown] at hkind
      simp only [Node.enter?, rebuffed, hown, hkind]
      have hconsume := h.consume? hnodes hown hstates.cursor
      revert hconsume
      rcases context.cursor.consume? token with _ | cursor <;>
        rcases state.cursor.consume? token with _ | place <;> rintro ⟨hplaces⟩
      · exact .inl ⟨rfl, rfl, hstates.bindings_eq⟩
      · exact .inr ⟨_, _, rfl, rfl, ⟨hstates.bindings_eq, h.weaken hplaces⟩, fun _ => hplaces⟩
  | argument name type =>
      rw [hown] at hkind
      have hread := h.read hnodes hown hstates
      simp only [Node.enter?, rebuffed, hown, hkind, hread.value?_eq]
      cases hvalue : (type.read commands context).value? with
      | none => exact .inl ⟨rfl, rfl, hread.bindings_eq⟩
      | some value =>
          have hplaces := hread.cursor (by simp [hvalue])
          refine .inr ⟨_, _, rfl, rfl, ⟨?_, h.weaken hplaces⟩, fun _ => hplaces⟩
          exact congrArg (fun bindings => Bindings.bind bindings name value) hread.bindings_eq

theorem bindings_backOut (h : Lockstep commands S K L) (hnodes : S node other)
    (hstates : context.Matches K state) {last final : Context}
    (hlast : final.bindings = last.bindings) :
    (other.backOut commands state final).bindings =
      (node.backOut commands context last).bindings := by
  have hkind := h.kind_eq hnodes
  cases hown : node.kind with
  | root => simp [backOut, hown, hkind, hlast]
  | literal token => simp [backOut, hown, hkind, hlast, Context.moveTo]
  | argument name type =>
      have hread := (h.read hnodes hown hstates).bindings_eq
      simp [backOut, hown, hkind, hlast, hread]

theorem closes_eq_false (h : Lockstep commands S K L) (hnodes : S node other)
    {next place : Context} (hplaces : node.kind ≠ .root → L next.cursor place.cursor)
    (hopen : node.closes next = false) : other.closes place = false := by
  have hkind := h.kind_eq hnodes
  cases hown : node.kind with
  | root => simp [closes, hkind, hown]
  | argument name type => simp [closes, hkind, hown]
  | literal token =>
      simp only [closes, hkind, hown] at hopen ⊢
      exact h.stays (hplaces (by simp [hown])) hopen

/-- Two walks that end with a literal at the same time. -/
theorem follows_of_closes (h : Lockstep commands S K L) (hnodes : S node other)
    (hstates : context.Matches K state) {next place : Context}
    (henter : node.enter? commands context = some next) (hcloses : node.closes next = true)
    (henter' : other.enter? commands state = some place) (hcloses' : other.closes place = true) :
    Walk.Follows S K L Late (node.walk commands context) (other.walk commands state)
      (node.tour commands context) (other.tour commands state) := by
  have hend : Leg.CanEnd ⟨node, context, next⟩ := canEnd_of_closes hcloses
  rcases h.enter? hnodes hstates with ⟨hnone, -⟩ | ⟨next', place', hnext, hplace, hmatch, hplaces⟩
  · simp [hnone] at henter
  · obtain rfl := Option.some.inj (hnext.symm.trans henter)
    obtain rfl := Option.some.inj (hplace.symm.trans henter')
    rw [walk_of_enter?_eq_some henter, walk_of_enter?_eq_some henter', if_pos hcloses,
      if_pos hcloses', tour_of_closes henter hcloses, tour_of_closes henter' hcloses',
      h.action_eq hnodes]
    exact
      { verdict_eq := rfl
        bindings_eq := hmatch.bindings_eq
        cursor := fun _ => hplaces hend.1
        stop?_eq := rfl
        visits := ⟨[⟨[], other, state⟩], [], rfl, .cons ⟨rfl, hnodes, hstates⟩ .nil, by simp⟩ }

/-! ## Siblings -/

/-- Siblings go in step if each of them does, wherever they start. -/
theorem follows_walkAny
    (hbelow : ∀ {address visit} (position : Nat), Late address visit →
      Late (position :: address) (visit.below position))
    {trees others : List (Node α)}
    (htrees : List.Forall₂ (fun tree other => ∀ context state, context.Matches K state →
      Walk.Follows S K L Late (tree.walk commands context) (other.walk commands state)
        (tree.tour commands context) (other.tour commands state)) trees others)
    (start : Nat) (hstates : context.Matches K state) :
    Walk.Follows S K L Late (walkAny commands trees context) (walkAny commands others state)
      (tourFrom commands start trees context) (tourFrom commands start others state) := by
  induction htrees generalizing start context state with
  | nil =>
      exact
        { verdict_eq := rfl
          bindings_eq := hstates.bindings_eq
          cursor := by simp [walkAny, Walk.refused, Verdict.isAccepted]
          stop?_eq := rfl
          visits := ⟨[], [], rfl, .nil, by simp⟩ }
  | @cons tree other rest later hfirst _ ih =>
      have hstep := hfirst context state hstates
      have hshifted := hstep.below hbelow start
      cases hverdict : (tree.walk commands context).verdict with
      | accepted given =>
          have hother := hstep.verdict_eq.trans hverdict
          rw [walkAny_cons_of_accepted hverdict, walkAny_cons_of_accepted hother,
            tourFrom_cons_of_accepted hverdict, tourFrom_cons_of_accepted hother]
          exact hshifted
      | refused =>
          have hother := hstep.verdict_eq.trans hverdict
          have hnext : (tree.walk commands context).context.Matches K
              (other.walk commands state).context := by
            refine ⟨hstep.bindings_eq, ?_⟩
            rw [cursor_of_walk_refused hverdict, cursor_of_walk_refused hother]
            exact hstates.cursor
          -- The first walk stops nowhere, so the second makes no late visits.
          have hstop := stop?_eq_none_of_refused hverdict
          have hmatch := hshifted.forall₂_visits (by simp [Tour.below, hstop])
          have hrest := ih (start + 1) hnext
          obtain ⟨front, late, hlater, hmatch', hlate⟩ := hrest.visits
          rw [walkAny_cons_of_refused hverdict, walkAny_cons_of_refused hother,
            tourFrom_cons_of_refused hverdict, tourFrom_cons_of_refused hother]
          exact
            { verdict_eq := hrest.verdict_eq
              bindings_eq := hrest.bindings_eq
              cursor := hrest.cursor
              stop?_eq := hrest.stop?_eq
              visits := ⟨((other.tour commands state).below start).visits ++ front, late,
                by simp [hlater], List.rel_append hmatch hmatch', hlate⟩ }

/-! ## Whole trees -/

/-- A node that hands the line on is in step if its children are. -/
theorem follows_of_not_closes (h : Lockstep commands S K L) (hnodes : S node other)
    (hstates : context.Matches K state) {next place : Context}
    (henter : node.enter? commands context = some next) (hopen : node.closes next = false)
    (henter' : other.enter? commands state = some place) (hopen' : other.closes place = false)
    (hplaces : node.kind ≠ .root → L next.cursor place.cursor)
    (hrun : Walk.Follows S K L Late (walkAny commands node.children next)
      (walkAny commands other.children place) (tourFrom commands 0 node.children next)
      (tourFrom commands 0 other.children place)) :
    Walk.Follows S K L Late (node.walk commands context) (other.walk commands state)
      (node.tour commands context) (other.tour commands state) := by
  have hfallback := h.fallback?_eq hnodes
  have hstop : (other.tour commands state).stop? = (node.tour commands context).stop? := by
    rw [tour_of_not_closes henter hopen, tour_of_not_closes henter' hopen', hfallback,
      hrun.stop?_eq]
  have hvisits : ∃ front late, (other.tour commands state).visits = front ++ late ∧
      List.Forall₂ (Visit.Matches S K) (node.tour commands context).visits front ∧
      ∀ visit ∈ late, ∃ address ∈ (node.tour commands context).stop?, Late address visit := by
    obtain ⟨front, late, hvisits, hmatch, hlate⟩ := hrun.visits
    rw [tour_of_not_closes henter hopen, tour_of_not_closes henter' hopen', hvisits]
    refine ⟨⟨[], other, state⟩ :: front, late, rfl, .cons ⟨rfl, hnodes, hstates⟩ hmatch, ?_⟩
    intro visit hvisit
    obtain ⟨address, haddress, hvisit⟩ := hlate visit hvisit
    exact ⟨address, by simp [Option.mem_def.mp haddress], hvisit⟩
  have hwalk := walk_of_enter?_eq_some henter
  have hwalk' := walk_of_enter?_eq_some henter'
  rw [if_neg (by simp [hopen])] at hwalk
  rw [if_neg (by simp [hopen']), hfallback] at hwalk'
  cases hverdict : (walkAny commands node.children next).verdict with
  | accepted given =>
      rw [Walk.settle_of_accepted hverdict] at hwalk
      rw [Walk.settle_of_accepted (hrun.verdict_eq.trans hverdict)] at hwalk'
      rw [hwalk, hwalk']
      exact
        { verdict_eq := hrun.verdict_eq
          bindings_eq := hrun.bindings_eq
          cursor := hrun.cursor
          stop?_eq := hstop
          visits := hvisits }
  | refused =>
      have hverdict' := hrun.verdict_eq.trans hverdict
      cases haction : node.fallback? with
      | some action =>
          rw [haction, Walk.settle_some_of_refused hverdict] at hwalk
          rw [haction, Walk.settle_some_of_refused hverdict'] at hwalk'
          have hend : Leg.CanEnd ⟨node, context, next⟩ := canEnd_of_fallback? haction
          have hcursor : L (walkAny commands node.children next).context.cursor
              (walkAny commands other.children place).context.cursor := by
            rw [cursor_of_walkAny_refused hverdict, cursor_of_walkAny_refused hverdict']
            exact hplaces hend.1
          rw [hwalk, hwalk']
          exact
            { verdict_eq := rfl
              bindings_eq := hrun.bindings_eq
              cursor := fun _ => hcursor
              stop?_eq := hstop
              visits := hvisits }
      | none =>
          rw [haction, Walk.settle_none_of_refused hverdict] at hwalk
          rw [haction, Walk.settle_none_of_refused hverdict'] at hwalk'
          rw [hwalk, hwalk']
          exact
            { verdict_eq := hrun.verdict_eq
              bindings_eq := h.bindings_backOut hnodes hstates hrun.bindings_eq
              cursor := by simp [hverdict, Verdict.isAccepted]
              stop?_eq := hstop
              visits := hvisits }

/-- Walks that are in step at each node, and wherever the first ends with a literal, are in
step altogether. -/
theorem follows (h : Lockstep commands S K L)
    (hbelow : ∀ {address visit} (position : Nat), Late address visit →
      Late (position :: address) (visit.below position))
    (hended : ∀ {node other context state next}, S node other → context.Matches K state →
      node.enter? commands context = some next → node.closes next = true →
        Walk.Follows S K L Late (node.walk commands context) (other.walk commands state)
          (node.tour commands context) (other.tour commands state))
    (hnodes : S node other) (hstates : context.Matches K state) :
    Walk.Follows S K L Late (node.walk commands context) (other.walk commands state)
      (node.tour commands context) (other.tour commands state) := by
  induction node using treeInduction generalizing other context state with
  | step node ih =>
      rcases h.enter? hnodes hstates with
        ⟨henter, henter', hbindings⟩ | ⟨next, place, henter, henter', hmatch, hplaces⟩
      · rw [walk_of_enter?_eq_none henter, walk_of_enter?_eq_none henter',
          tour_of_enter?_eq_none henter, tour_of_enter?_eq_none henter']
        exact
          { verdict_eq := rfl
            bindings_eq := hbindings
            cursor := by simp [Walk.refused, Verdict.isAccepted]
            stop?_eq := rfl
            visits := ⟨[⟨[], other, state⟩], [], rfl, .cons ⟨rfl, hnodes, hstates⟩ .nil, by simp⟩ }
      · by_cases hcloses : node.closes next = true
        · exact hended hnodes hstates henter hcloses
        · have hopen : node.closes next = false := Bool.eq_false_iff.mpr hcloses
          have hopen' := h.closes_eq_false hnodes hplaces hopen
          have hbelows : ∀ child ∈ node.children, ∀ other, S child other → ∀ context state,
              context.Matches K state →
                Walk.Follows S K L Late (child.walk commands context) (other.walk commands state)
                  (child.tour commands context) (other.tour commands state) :=
            fun child hchild other hnodes context state hstates => ih child hchild hnodes hstates
          have hchildren := (List.forall₂_and_left _ _).mpr ⟨hbelows, h.children hnodes⟩
          apply h.follows_of_not_closes hnodes hstates henter hopen henter' hopen' hplaces
          apply follows_walkAny hbelow _ 0 hmatch
          exact hchildren.imp fun child other hboth => hboth.1 other hboth.2

/-- Walks that end with a literal only at the same time. -/
theorem follows_of_atEnd (h : Lockstep commands S K L)
    (hatEnd : ∀ {cursor place}, L cursor place → cursor.atEnd = true → place.atEnd = true)
    (hnodes : S node other) (hstates : context.Matches K state) :
    Walk.Follows S K L (fun _ _ => False) (node.walk commands context)
      (other.walk commands state) (node.tour commands context) (other.tour commands state) := by
  apply h.follows (fun _ hlate => hlate) _ hnodes hstates
  intro node other context state next hnodes hstates henter hcloses
  rcases h.enter? hnodes hstates with ⟨hnone, -⟩ | ⟨next', place, hnext, henter', -, hplaces⟩
  · simp [hnone] at henter
  · obtain rfl := Option.some.inj (hnext.symm.trans henter)
    obtain ⟨token, hkind, hend⟩ := exists_literal_of_closes hcloses
    have hcloses' : other.closes place = true := by
      rw [closes, h.kind_eq hnodes, hkind]
      exact hatEnd (hplaces (by simp [hkind])) hend
    exact h.follows_of_closes hnodes hstates henter hcloses henter' hcloses'

/-! ## Reports -/

/-- An argument type reports the same on matching visits. -/
theorem findings_eq (h : Lockstep commands S K L) {visit other : Visit α}
    (hvisits : visit.Matches S K other) : other.findings commands = visit.findings commands := by
  have hkind := h.kind_eq hvisits.node
  unfold Visit.findings
  rw [hkind]
  split
  · next hargument => exact (h.read hvisits.node hargument hvisits.context).reports_eq
  · rfl

/-- An argument that is missing is so on matching visits, but whether that is reported
depends on the node. -/
theorem omission_eq (h : Lockstep commands S K L) {visit other : Visit α}
    (hvisits : visit.Matches S K other) (hoptional : other.node.optional = visit.node.optional) :
    other.omission commands = visit.omission commands := by
  have hkind := h.kind_eq hvisits.node
  unfold Visit.omission
  rw [hkind, hoptional]
  split
  · next hargument => rw [(h.read hvisits.node hargument hvisits.context).value?_eq]
  · rfl

/-- Visits of one node report the same. -/
theorem reports_eq (h : Lockstep commands S K L) {visit other : Visit α}
    (hvisits : visit.Matches S K other) (hnode : other.node = visit.node) :
    other.reports commands = visit.reports commands := by
  rw [Visit.reports, Visit.reports, h.findings_eq hvisits,
    h.omission_eq hvisits (congrArg Node.optional hnode)]

end Lockstep

/-- What is said alike on matching visits is said alike on all of them together. -/
theorem flatMap_eq_of_forall₂ {S : Node α → Node α → Prop} {K : Cursor → Cursor → Prop}
    {visits others : List (Visit α)} {said : Visit α → List Diagnostic}
    (hvisits : List.Forall₂ (Visit.Matches S K) visits others)
    (hsaid : ∀ {visit other}, visit.Matches S K other → said other = said visit) :
    others.flatMap said = visits.flatMap said := by
  induction hvisits with
  | nil => rfl
  | cons hfirst _ ih => rw [List.flatMap_cons, List.flatMap_cons, hsaid hfirst, ih]

end CommandTree
