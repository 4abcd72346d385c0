import CommandTree.Proofs.Node.Frame

/-!
# Accepting paths

What a walk computes is said here without walking.  An *accepting path* leads from
a node down to one at which the line may end; it is written as the list of the
child positions taken, with the states of matching passed on the way.  Longer
paths come before the paths they extend, and otherwise the smaller position
decides.

The main result says that a walk takes the line exactly if there is an accepting
path, that it takes the first one, and that nothing remains of the others: the
state it ends in, and the action it fires, are those of that path.
-/

namespace CommandTree

/-- A node on a path, with the states of matching before and after it is parsed. -/
structure Leg (α : Type) where
  node : Node α
  before : Context
  after : Context

namespace Leg

variable {α : Type}

/-- A path may end at a node if the line ends with it or it has an action.  At a
root no path ends. -/
def CanEnd (leg : Leg α) : Prop :=
  leg.node.kind ≠ .root ∧
    (leg.node.closes leg.after = true ∨ leg.node.action.isSome = true)

/-- The name and the value that an argument on a path binds. -/
def entry? (commands : List String) (leg : Leg α) : Option (String × Value) :=
  match leg.node.kind with
  | .argument name type =>
      (type.read commands leg.before).value?.map fun value => (name, value)
  | _ => none

end Leg

/-- The bindings after what the arguments on a path bind was put in one after the other, in
place of what was there under the same name. -/
def Bindings.along {α : Type} (commands : List String) (bindings : Bindings)
    (legs : List (Leg α)) : Bindings :=
  (legs.filterMap (Leg.entry? commands)).foldl
    (fun found entry => found.insert entry.1 entry.2) bindings

theorem Bindings.along_append {α : Type} (commands : List String)
    (bindings : Bindings) (front back : List (Leg α)) :
    along commands bindings (front ++ back) =
      along commands (along commands bindings front) back := by
  simp [along]

namespace Node

variable {α : Type}

/-- `path` leads from a node, parsed in a given state, to a node where the line
may end, and `legs` are the nodes on it. -/
inductive Accepts (commands : List String) :
    Node α → Context → List Nat → List (Leg α) → Prop where
  | ends {node : Node α} {context next : Context}
      (henter : node.enter? commands context = some next)
      (hcanEnd : Leg.CanEnd ⟨node, context, next⟩) :
      Accepts commands node context [] [⟨node, context, next⟩]
  | passes {node child : Node α} {context next : Context} {position : Nat}
      {path : List Nat} {legs : List (Leg α)}
      (henter : node.enter? commands context = some next)
      (hopen : node.closes next = false)
      (hchild : node.children[position]? = some child)
      (hpath : Accepts commands child next path legs) :
      Accepts commands node context (position :: path)
        (⟨node, context, next⟩ :: legs)

/-- The order of paths: a path comes before those it extends, and otherwise the
smaller position at the first difference decides. -/
def Precedes : List Nat → List Nat → Prop
  | _ :: _, [] => True
  | [], _ => False
  | position :: path, other :: rest =>
      position < other ∨ position = other ∧ Precedes path rest

/-- An accepting path that comes before all others. -/
structure IsFirstPath (commands : List String) (node : Node α) (context : Context)
    (path : List Nat) (legs : List (Leg α)) : Prop where
  accepts : Accepts commands node context path legs
  first : ∀ other otherLegs, Accepts commands node context other otherLegs →
    other = path ∨ Precedes path other

variable {commands : List String}

/-! ## The order of paths -/

theorem Precedes.asymm {path other : List Nat} (h : Precedes path other) :
    ¬ Precedes other path := by
  induction path generalizing other with
  | nil => exact absurd h (by cases other <;> exact id)
  | cons position path ih =>
      cases other with
      | nil => exact id
      | cons otherPosition rest =>
          rintro (hgt | ⟨heq, hafter⟩)
          · rcases h with hlt | ⟨heq, -⟩
            · omega
            · omega
          · rcases h with hlt | ⟨-, hbefore⟩
            · omega
            · exact ih hbefore hafter

/-- A path determines the nodes and the states passed on it. -/
theorem Accepts.legs_unique {node : Node α} {context : Context} {path : List Nat}
    {legs otherLegs : List (Leg α)} (h : Accepts commands node context path legs)
    (hother : Accepts commands node context path otherLegs) : legs = otherLegs := by
  induction h generalizing otherLegs with
  | ends henter =>
      cases hother with
      | ends henter' =>
          obtain rfl := Option.some.inj (henter.symm.trans henter')
          rfl
  | passes henter hopen hchild hpath ih =>
      cases hother with
      | passes henter' hopen' hchild' hpath' =>
          obtain rfl := Option.some.inj (henter.symm.trans henter')
          obtain rfl := Option.some.inj (hchild.symm.trans hchild')
          rw [ih hpath']

/-- There is only one first path. -/
theorem IsFirstPath.unique {node : Node α} {context : Context}
    {path other : List Nat} {legs otherLegs : List (Leg α)}
    (h : IsFirstPath commands node context path legs)
    (hother : IsFirstPath commands node context other otherLegs) :
    path = other ∧ legs = otherLegs := by
  have hpath : path = other := by
    rcases h.first other otherLegs hother.accepts with heq | hbefore
    · exact heq.symm
    · rcases hother.first path legs h.accepts with heq | hafter
      · exact heq
      · exact absurd hafter hbefore.asymm
  subst hpath
  exact ⟨rfl, h.accepts.legs_unique hother.accepts⟩

/-! ## Where paths can end -/

theorem canEnd_of_closes {node : Node α} {context next : Context}
    (hcloses : node.closes next = true) :
    Leg.CanEnd ⟨node, context, next⟩ := by
  obtain ⟨token, hkind, -⟩ := exists_literal_of_closes hcloses
  exact ⟨by simp [hkind], .inl hcloses⟩

theorem action_of_fallback? {node : Node α} {action : α}
    (hfallback : node.fallback? = some action) : node.action = some action := by
  unfold fallback? at hfallback
  split at hfallback
  · simp at hfallback
  · exact hfallback

theorem canEnd_of_fallback? {node : Node α} {context next : Context} {action : α}
    (hfallback : node.fallback? = some action) :
    Leg.CanEnd ⟨node, context, next⟩ := by
  refine ⟨?_, .inr (by simp [action_of_fallback? hfallback])⟩
  intro hkind
  have hkind' : node.kind = .root := hkind
  simp [fallback?, hkind'] at hfallback

theorem not_canEnd {node : Node α} {context next : Context}
    (hopen : node.closes next = false) (hfallback : node.fallback? = none) :
    ¬ Leg.CanEnd ⟨node, context, next⟩ := by
  rintro ⟨hkind, hcloses | haction⟩
  · simp [hopen] at hcloses
  · unfold fallback? at hfallback
    split at hfallback
    · next hroot => exact hkind hroot
    · simp [hfallback] at haction

/-! ## Extending paths by a node -/

theorem not_accepts_of_enter?_eq_none {node : Node α} {context : Context}
    (henter : node.enter? commands context = none) (path : List Nat)
    (legs : List (Leg α)) : ¬ Accepts commands node context path legs := by
  intro haccepts
  cases haccepts with
  | ends henter' => simp [henter] at henter'
  | passes henter' => simp [henter] at henter'

/-- A node with nowhere to go and no way to end the line is on no path. -/
theorem not_accepts_of_fallback?_eq_none {node : Node α} {context next : Context}
    (henter : node.enter? commands context = some next)
    (hopen : node.closes next = false) (hfallback : node.fallback? = none)
    (hnone : ∀ child ∈ node.children, ∀ path legs,
      ¬ Accepts commands child next path legs)
    (path : List Nat) (legs : List (Leg α)) :
    ¬ Accepts commands node context path legs := by
  intro haccepts
  cases haccepts with
  | ends henter' hcanEnd =>
      obtain rfl := Option.some.inj (henter.symm.trans henter')
      exact not_canEnd hopen hfallback hcanEnd
  | passes henter' hopen' hchild hpath =>
      obtain rfl := Option.some.inj (henter.symm.trans henter')
      exact hnone _ (List.mem_of_getElem? hchild) _ _ hpath

/-- Where the line ends, the only path ends too. -/
theorem isFirstPath_of_closes {node : Node α} {context next : Context}
    (henter : node.enter? commands context = some next)
    (hcloses : node.closes next = true) :
    IsFirstPath commands node context [] [⟨node, context, next⟩] := by
  refine ⟨.ends henter (canEnd_of_closes hcloses), ?_⟩
  intro other otherLegs hother
  cases hother with
  | ends => exact .inl rfl
  | passes henter' hopen =>
      obtain rfl := Option.some.inj (henter.symm.trans henter')
      simp [hcloses] at hopen

/-- A node below which there is no path is where its own path ends. -/
theorem isFirstPath_of_fallback? {node : Node α} {context next : Context}
    {action : α} (henter : node.enter? commands context = some next)
    (hfallback : node.fallback? = some action)
    (hnone : ∀ child ∈ node.children, ∀ path legs,
      ¬ Accepts commands child next path legs) :
    IsFirstPath commands node context [] [⟨node, context, next⟩] := by
  refine ⟨.ends henter (canEnd_of_fallback? hfallback), ?_⟩
  intro other otherLegs hother
  cases hother with
  | ends => exact .inl rfl
  | passes henter' hopen hchild hpath =>
      obtain rfl := Option.some.inj (henter.symm.trans henter')
      exact absurd hpath (hnone _ (List.mem_of_getElem? hchild) _ _)

/-- The first path below the first child that has one is the first path. -/
theorem IsFirstPath.passes {node child : Node α} {context next : Context}
    {position : Nat} {path : List Nat} {legs : List (Leg α)}
    (henter : node.enter? commands context = some next)
    (hopen : node.closes next = false)
    (hchild : node.children[position]? = some child)
    (hnone : ∀ earlier < position, ∀ other,
      node.children[earlier]? = some other →
        ∀ path legs, ¬ Accepts commands other next path legs)
    (hfirst : IsFirstPath commands child next path legs) :
    IsFirstPath commands node context (position :: path)
      (⟨node, context, next⟩ :: legs) := by
  refine ⟨.passes henter hopen hchild hfirst.accepts, ?_⟩
  intro other otherLegs hother
  cases hother with
  | ends => exact .inr trivial
  | @passes _ otherChild _ _ otherPosition otherPath otherRest henter' _ hchild' hpath =>
      obtain rfl := Option.some.inj (henter.symm.trans henter')
      rcases Nat.lt_trichotomy otherPosition position with hlt | rfl | hgt
      · exact absurd hpath (hnone otherPosition hlt otherChild hchild' _ _)
      · obtain rfl := Option.some.inj (hchild.symm.trans hchild')
        rcases hfirst.first otherPath otherRest hpath with rfl | hprecedes
        · exact .inl rfl
        · exact .inr (.inr ⟨rfl, hprecedes⟩)
      · exact .inr (.inl hgt)

/-! ## The walk of siblings -/

/-- Siblings that all fail are walked from the same state, and so is the first
that does not. -/
theorem walkAny_refused_or_first (commands : List String)
    {children : List (Node α)}
    (hkeep : ∀ child ∈ children, child.AllTypes ArgumentType.KeepsBindings)
    (context : Context) :
    ((walkAny commands children context).verdict = .refused ∧
      (walkAny commands children context).context = context ∧
      ∀ child ∈ children, (child.walk commands context).verdict = .refused) ∨
    ∃ (position : Nat) (child : Node α) (given : Option α),
      children[position]? = some child ∧
      (child.walk commands context).verdict = .accepted given ∧
      (walkAny commands children context).verdict = .accepted given ∧
      (walkAny commands children context).context =
        (child.walk commands context).context ∧
      ∀ earlier < position, ∀ other : Node α, children[earlier]? = some other →
        (other.walk commands context).verdict = .refused := by
  induction children with
  | nil => exact .inl ⟨rfl, rfl, by simp⟩
  | cons first rest ih =>
      cases hverdict : (first.walk commands context).verdict with
      | accepted given =>
          refine .inr ⟨0, first, given, rfl, hverdict, ?_, ?_, ?_⟩
          · rw [walkAny_cons_of_accepted hverdict, hverdict]
          · rw [walkAny_cons_of_accepted hverdict]
          · intro earlier hearlier
            omega
      | refused =>
          have hback := context_of_walk_refused
            (hkeep first List.mem_cons_self) hverdict
          rw [walkAny_cons_of_refused hverdict, hback]
          have hrest := ih fun child hchild =>
            hkeep child (List.mem_cons_of_mem first hchild)
          rcases hrest with ⟨hall, hcontext, heach⟩ |
            ⟨position, child, given, hchild, hwalk, hany, hcontext, hnone⟩
          · refine .inl ⟨hall, hcontext, ?_⟩
            intro child hchild
            rcases List.mem_cons.mp hchild with rfl | hmem
            · exact hverdict
            · exact heach child hmem
          · refine .inr ⟨position + 1, child, given, hchild, hwalk, hany, hcontext, ?_⟩
            rintro (_ | earlier) hearlier other hother
            · obtain rfl := Option.some.inj hother
              exact hverdict
            · exact hnone earlier (by omega) other hother

/-! ## The walk of a tree -/

/-- How a walk stands to the paths of its tree: if it fails there is none, and
otherwise its end is that of the first. -/
def FollowsPaths (commands : List String) (node : Node α) (context : Context) :
    Prop :=
  match (node.walk commands context).verdict with
  | .refused => ∀ path legs, ¬ Accepts commands node context path legs
  | .accepted given =>
      ∃ path legs last, IsFirstPath commands node context path legs ∧
        legs.getLast? = some last ∧ given = last.node.action ∧
        (node.walk commands context).context = last.after

/-- A node hands the line on along the first path below it. -/
theorem FollowsPaths.of_handedOn {node : Node α} {context next : Context}
    {given : Option α}
    (hkeep : ∀ child ∈ node.children, child.AllTypes ArgumentType.KeepsBindings)
    (hfollows : ∀ child ∈ node.children, FollowsPaths commands child next)
    (henter : node.enter? commands context = some next)
    (hopen : node.closes next = false)
    (hbelow : (walkAny commands node.children next).verdict = .accepted given) :
    ∃ path legs last, IsFirstPath commands node context path legs ∧
      legs.getLast? = some last ∧ given = last.node.action ∧
      (walkAny commands node.children next).context = last.after := by
  rcases walkAny_refused_or_first commands hkeep next with
    ⟨hrefused, -⟩ |
    ⟨position, child, given', hchild, hchildWalk, hany, hcontext, hearlier⟩
  · simp [hrefused] at hbelow
  · obtain rfl : given' = given := by simpa [hany] using hbelow
    have hchildFollows := hfollows child (List.mem_of_getElem? hchild)
    rw [FollowsPaths, hchildWalk] at hchildFollows
    obtain ⟨path, legs, last, hfirst, hlast, haction, hend⟩ := hchildFollows
    refine ⟨position :: path, ⟨node, context, next⟩ :: legs, last, ?_, ?_,
      haction, ?_⟩
    · refine hfirst.passes henter hopen hchild ?_
      intro earlier hlt other hother
      have hotherFollows := hfollows other (List.mem_of_getElem? hother)
      rwa [FollowsPaths, hearlier earlier hlt other hother] at hotherFollows
    · simp [List.getLast?_cons, hlast]
    · rw [hcontext, hend]

/-- A node whose children all fail has no path through any of them. -/
theorem FollowsPaths.not_accepts_of_refused {node : Node α} {next : Context}
    (hkeep : ∀ child ∈ node.children, child.AllTypes ArgumentType.KeepsBindings)
    (hfollows : ∀ child ∈ node.children, FollowsPaths commands child next)
    (hbelow : (walkAny commands node.children next).verdict = .refused) :
    (walkAny commands node.children next).context = next ∧
      ∀ child ∈ node.children, ∀ path legs,
        ¬ Accepts commands child next path legs := by
  rcases walkAny_refused_or_first commands hkeep next with
    ⟨-, hcontext, hall⟩ | ⟨_, _, given, -, -, hany, -⟩
  · refine ⟨hcontext, ?_⟩
    intro child hchild
    have hchildFollows := hfollows child hchild
    rwa [FollowsPaths, hall child hchild] at hchildFollows
  · simp [hany] at hbelow

theorem followsPaths (commands : List String) {node : Node α}
    (hkeep : node.AllTypes ArgumentType.KeepsBindings) (context : Context) :
    FollowsPaths commands node context := by
  induction node using treeInduction generalizing context with
  | step node ih =>
      have hchildren : ∀ child ∈ node.children,
          child.AllTypes ArgumentType.KeepsBindings :=
        fun child hchild => hkeep.of_mem_children hchild
      have hfollows : ∀ next, ∀ child ∈ node.children,
          FollowsPaths commands child next :=
        fun next child hchild => ih child hchild (hchildren child hchild) next
      cases node.course commands context with
      | barred henter hwalk =>
          rw [FollowsPaths, hwalk]
          exact not_accepts_of_enter?_eq_none henter
      | ended next henter hcloses hwalk =>
          rw [FollowsPaths, hwalk]
          exact ⟨[], _, _, isFirstPath_of_closes henter hcloses, rfl, rfl, rfl⟩
      | handedOn next given henter hopen hbelow hwalk =>
          rw [FollowsPaths, hwalk, Walk.verdict_after, hbelow]
          exact FollowsPaths.of_handedOn hchildren (hfollows next) henter hopen hbelow
      | fellBack next action henter hopen hbelow hfallback hwalk =>
          obtain ⟨hcontext, hnone⟩ :=
            FollowsPaths.not_accepts_of_refused hchildren (hfollows next) hbelow
          rw [FollowsPaths, hwalk]
          exact ⟨[], _, ⟨node, context, next⟩,
            isFirstPath_of_fallback? henter hfallback hnone, rfl,
            (action_of_fallback? hfallback).symm, hcontext⟩
      | backedOut next henter hopen hbelow hfallback hwalk =>
          obtain ⟨-, hnone⟩ :=
            FollowsPaths.not_accepts_of_refused hchildren (hfollows next) hbelow
          rw [FollowsPaths, hwalk, Walk.verdict_after, hbelow]
          exact not_accepts_of_fallback?_eq_none henter hopen hfallback hnone

theorem isAccepted_iff_exists_accepts (commands : List String) {node : Node α}
    (hkeep : node.AllTypes ArgumentType.KeepsBindings) (context : Context) :
    (node.walk commands context).verdict.isAccepted = true ↔
      ∃ path legs, Accepts commands node context path legs := by
  have hfollows := followsPaths commands hkeep context
  cases hverdict : (node.walk commands context).verdict with
  | refused =>
      rw [FollowsPaths, hverdict] at hfollows
      simp [Verdict.isAccepted, hfollows]
  | accepted given =>
      rw [FollowsPaths, hverdict] at hfollows
      obtain ⟨path, legs, -, hfirst, -⟩ := hfollows
      simp only [Verdict.isAccepted, true_iff]
      exact ⟨path, legs, hfirst.accepts⟩

/-! ## The bindings at the end of a path -/

/-- A node that is entered changes the bindings by what it binds itself. -/
theorem bindings_of_enter? {node : Node α} {context next : Context}
    (hkeep : node.AllTypes ArgumentType.KeepsBindings)
    (henter : node.enter? commands context = some next) :
    next.bindings =
      Bindings.along commands context.bindings [⟨node, context, next⟩] := by
  cases hkind : node.kind with
  | root =>
      obtain rfl := eq_of_enter?_root hkind henter
      simp [Bindings.along, Leg.entry?, hkind]
  | literal token =>
      obtain ⟨cursor, -, rfl⟩ := exists_cursor_of_enter?_literal hkind henter
      simp [Bindings.along, Leg.entry?, hkind, Context.moveTo]
  | argument name type =>
      obtain ⟨value, hvalue, rfl⟩ := exists_value_of_enter?_argument hkind henter
      have hbindings := hkeep.own hkind commands context
      simp [Bindings.along, Leg.entry?, hkind, hvalue, Context.bind, Bindings.bind, hbindings]

/-- At the end of a path the bindings are those at its start, with the arguments
on the path bound one after the other. -/
theorem Accepts.bindings_eq_along {node : Node α} {context : Context}
    {path : List Nat} {legs : List (Leg α)} {last : Leg α}
    (h : Accepts commands node context path legs)
    (hkeep : node.AllTypes ArgumentType.KeepsBindings)
    (hlast : legs.getLast? = some last) :
    last.after.bindings = Bindings.along commands context.bindings legs := by
  induction h with
  | ends henter =>
      obtain rfl := by simpa using hlast
      exact bindings_of_enter? hkeep henter
  | @passes node child context next position path legs henter hopen hchild hpath ih =>
      have hlast' : legs.getLast? = some last := by
        cases hpath <;> simpa using hlast
      have hbelow := ih (hkeep.of_mem_children (List.mem_of_getElem? hchild)) hlast'
      rw [hbelow, bindings_of_enter? hkeep henter, ← Bindings.along_append]
      rfl

/-! ## The path taken -/

/-- A walk takes the line exactly if there is an accepting path, and then it
takes the first: it ends as that path does and fires the action of its last node,
once if there is one, and no other.  A walk that fails fires nothing and leaves
no trace. -/
theorem walk_takes_first_path (commands : List String) (node : Node α)
    (context : Context) (hkeep : node.AllTypes ArgumentType.KeepsBindings) :
    ((node.walk commands context).verdict.isAccepted = true ↔
      ∃ path legs, Accepts commands node context path legs) ∧
    ((node.walk commands context).verdict.isAccepted = true →
      ∃ path legs, IsFirstPath commands node context path legs) ∧
    (∀ path legs, IsFirstPath commands node context path legs →
      ∃ last, legs.getLast? = some last ∧
        (node.walk commands context).fired =
          (last.node.action.map fun action => (action, last.after)).toList ∧
        (node.walk commands context).context = last.after ∧
        last.after.bindings = Bindings.along commands context.bindings legs) ∧
    ((node.walk commands context).verdict.isAccepted = false →
      (node.walk commands context).fired = [] ∧
        (node.walk commands context).context = context) := by
  have hfollows := followsPaths commands hkeep context
  cases hverdict : (node.walk commands context).verdict with
  | refused =>
      rw [FollowsPaths, hverdict] at hfollows
      refine ⟨?_, by simp [Verdict.isAccepted], ?_, ?_⟩
      · simp [Verdict.isAccepted, hfollows]
      · intro path legs hfirst
        exact absurd hfirst.accepts (hfollows path legs)
      · intro hrefused
        refine ⟨?_, context_of_walk_refused hkeep hverdict⟩
        simp [Walk.fired, hverdict, Verdict.action?]
  | accepted given =>
      rw [FollowsPaths, hverdict] at hfollows
      obtain ⟨path, legs, last, hfirst, hlast, haction, hend⟩ := hfollows
      refine ⟨?_, fun _ => ⟨path, legs, hfirst⟩, ?_, by simp [Verdict.isAccepted]⟩
      · simp only [Verdict.isAccepted, true_iff]
        exact ⟨path, legs, hfirst.accepts⟩
      · intro other otherLegs hother
        obtain ⟨rfl, rfl⟩ := hfirst.unique hother
        refine ⟨last, hlast, ?_, hend, hfirst.accepts.bindings_eq_along hkeep hlast⟩
        simp [Walk.fired, hverdict, Verdict.action?, haction, hend]

/-- A tree in which two arguments can follow a word. -/
def forkedTree : Node Nat :=
  { kind := .literal "a"
    children :=
      [{ kind := .argument "n" (.integer {})
         children := [{ kind := .literal "x" }] },
        { kind := .argument "n" (.text {})
          children := [{ kind := .literal "y", action := some 1 }] }]
    action := some 0 }

/-- Where the number leads nowhere, the path goes on through the text, and not
through the action of the tree itself; only the text is bound in the end. -/
theorem walk_takes_path_through_text :
    forkedTree.AllTypes ArgumentType.KeepsBindings ∧
      ∃ path legs last, IsFirstPath [] forkedTree (.start "a 5 y") path legs ∧
        legs.getLast? = some last ∧ last.node.action = some 1 ∧
        last.after.bindings = Bindings.along [] ∅ legs ∧
        last.after.bindings.toList = [("n", .text "5")] := by
  have hkeep : forkedTree.AllTypes ArgumentType.KeepsBindings := by
    simp [AllTypes, forkedTree, nodes, nodesOfAll,
      ArgumentType.keepsBindings_integer, ArgumentType.keepsBindings_text]
  have haccepted :
      (forkedTree.walk [] (.start "a 5 y")).verdict.isAccepted = true := by
    decide +kernel
  have hactions :
      (forkedTree.walk [] (.start "a 5 y")).fired.map Prod.fst = [1] := by
    decide +kernel
  obtain ⟨-, hfirst, hend, -⟩ :=
    walk_takes_first_path [] forkedTree (.start "a 5 y") hkeep
  obtain ⟨path, legs, hpath⟩ := hfirst haccepted
  obtain ⟨last, hlast, hfired, hcontext, hbindings⟩ := hend path legs hpath
  have haction : last.node.action = some 1 := by
    rw [hfired] at hactions
    cases haction : last.node.action with
    | none => simp [haction] at hactions
    | some action => simpa [haction] using hactions
  refine ⟨hkeep, path, legs, last, hpath, hlast, haction, hbindings, ?_⟩
  rw [← hcontext]
  decide +kernel

end Node

end CommandTree
