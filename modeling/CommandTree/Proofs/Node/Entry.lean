import CommandTree.Node.Walk
import CommandTree.Proofs.Node.Tree

/-!
# Entering a node

A walk treats the three kinds of nodes alike.  A node is *entered* if it can be
parsed by itself; after that the line ends with it, or a child takes the line, or
its own action does, or it is backed out of.  `Node.course` says so once for all
kinds, and is what the other modules know about the walk of a single node.
-/

namespace CommandTree

/-! ## The parts of a step -/

namespace Node

variable {α : Type}

/-- The state of matching after the node itself is parsed, if it can be. -/
def enter? (commands : List String) (node : Node α) (context : Context) :
    Option Context :=
  match node.kind with
  | .root => some context
  | .literal token => (context.cursor.consume? token).map context.moveTo
  | .argument name type =>
      let reading := type.read commands context
      reading.value?.map (reading.context.bind name)

/-- Whether the line ends with the node, where `next` is the state after it.  A
line can only end with a literal. -/
def closes (node : Node α) (next : Context) : Bool :=
  match node.kind with
  | .literal _ => next.cursor.atEnd
  | _ => false

/-- The action that takes what the children leave.  A root has none. -/
def fallback? (node : Node α) : Option α :=
  match node.kind with
  | .root => none
  | _ => node.action

/-- The state of matching after the node itself could not be parsed. -/
def rebuffed (commands : List String) (node : Node α) (context : Context) :
    Context :=
  match node.kind with
  | .argument _ type => (type.read commands context).context.moveTo context.cursor
  | _ => context

/-- The state of matching after the node is backed out of, where `last` is the
state its children left. -/
def backOut (commands : List String) (node : Node α) (context last : Context) :
    Context :=
  match node.kind with
  | .root => last
  | .literal _ => last.moveTo context.cursor
  | .argument name type =>
      { cursor := context.cursor
        bindings := last.bindings.restore name
          (type.read commands context).context.bindings[name]? }

/-- The diagnostics of a node that cannot be parsed. -/
def complaints (commands : List String) (node : Node α) (context : Context) :
    List Diagnostic :=
  match node.kind with
  | .argument name type =>
      (type.read commands context).reports ++
        if node.optional then [] else [.missingArgument name]
  | _ => []

/-- The events of parsing the node itself. -/
def entryEvents (commands : List String) (node : Node α) (context : Context) :
    List Event :=
  match node.kind with
  | .root => []
  | .literal token => [.consumed token context.cursor.offset]
  | .argument name type =>
      let reading := type.read commands context
      reading.reports.map (Event.reported · context.cursor.offset) ++
        (reading.value?.map (Event.bound name)).toList

/-! ## Entering the three kinds -/

section Kinds

variable {commands : List String} {node : Node α} {context next : Context}

theorem eq_of_enter?_root (hkind : node.kind = .root)
    (henter : node.enter? commands context = some next) : context = next := by
  simpa [enter?, hkind] using henter

theorem exists_cursor_of_enter?_literal {token : String}
    (hkind : node.kind = .literal token)
    (henter : node.enter? commands context = some next) :
    ∃ cursor, context.cursor.consume? token = some cursor ∧
      context.moveTo cursor = next := by
  simpa [enter?, hkind] using henter

theorem exists_value_of_enter?_argument {name : String} {type : ArgumentType}
    (hkind : node.kind = .argument name type)
    (henter : node.enter? commands context = some next) :
    ∃ value, (type.read commands context).value? = some value ∧
      (type.read commands context).context.bind name value = next := by
  simpa [enter?, hkind] using henter

/-- A line ends only with a literal. -/
theorem exists_literal_of_closes (hcloses : node.closes next = true) :
    ∃ token, node.kind = .literal token ∧ next.cursor.atEnd = true := by
  unfold closes at hcloses
  split at hcloses
  · next token hkind => exact ⟨token, hkind, hcloses⟩
  · cases hcloses

end Kinds

end Node

/-! ## How a walk comes out -/

theorem Verdict.isAccepted_eq_false_iff {α : Type} {verdict : Verdict α} :
    verdict.isAccepted = false ↔ verdict = .refused := by
  cases verdict <;> simp [isAccepted]

/-- The actions a walk fires, each with the state of matching it sees. -/
def Walk.fired {α : Type} (walk : Walk α) : List (α × Context) :=
  (walk.verdict.action?.map fun action => (action, walk.context)).toList

namespace Walk

variable {α : Type}

theorem settle_of_accepted {below : Walk α} {given : Option α}
    (h : below.verdict = .accepted given) (action : Option α)
    (undo : Context → Context) : below.settle action undo = below := by
  simp [settle, h]

theorem settle_some_of_refused {below : Walk α} (h : below.verdict = .refused)
    (action : α) (undo : Context → Context) :
    below.settle (some action) undo =
      { below with verdict := .accepted (some action) } := by
  simp [settle, h]

theorem settle_none_of_refused {below : Walk α} (h : below.verdict = .refused)
    (undo : Context → Context) :
    below.settle none undo = { below with context := undo below.context } := by
  simp [settle, h]

/-- A walk that fails is not changed if nothing comes after it. -/
theorem after_refused_of_refused {walk : Walk α} (h : walk.verdict = .refused) :
    (Walk.refused [] walk.context).after walk.events = walk := by
  obtain ⟨events, context, verdict⟩ := walk
  obtain rfl : verdict = .refused := h
  simp [Walk.refused, Walk.after]

/-- Settling without an action and without anything to take back changes nothing. -/
theorem settle_none_self (below : Walk α) :
    below.settle none (fun last => last) = below := by
  unfold settle
  split <;> rfl

end Walk

/-! ## One node -/

namespace Node

variable {α : Type}

/-- A node that cannot be parsed is refused with its complaints. -/
theorem walk_of_enter?_eq_none {commands : List String} {node : Node α}
    {context : Context} (h : node.enter? commands context = none) :
    node.walk commands context =
      .refused
        ((node.complaints commands context).map
          (Event.reported · context.cursor.offset))
        (node.rebuffed commands context) := by
  obtain ⟨kind, children, action, optional, description⟩ := node
  cases kind with
  | root => simp [enter?] at h
  | literal token =>
      have hnone : context.cursor.consume? token = none := by
        simpa [enter?] using h
      simp [walk, hnone, complaints, rebuffed]
  | argument name type =>
      have hnone : (type.read commands context).value? = none := by
        simpa [enter?] using h
      simp [walk, hnone, complaints, rebuffed, refusal]

/-- A node that is entered ends the line or hands it on to its children. -/
theorem walk_of_enter?_eq_some {commands : List String} {node : Node α}
    {context next : Context} (h : node.enter? commands context = some next) :
    node.walk commands context =
      (if node.closes next then Walk.accepted node.action next
        else (walkAny commands node.children next).settle node.fallback?
          (node.backOut commands context)).after
        (node.entryEvents commands context) := by
  obtain ⟨kind, children, action, optional, description⟩ := node
  cases kind with
  | root =>
      obtain rfl : context = next := by simpa [enter?] using h
      have hself := Walk.settle_none_self (walkAny commands children context)
      simp only [walk, closes, Bool.false_eq_true, if_false, fallback?,
        entryEvents]
      exact hself.symm
  | literal token =>
      obtain ⟨cursor, hcursor, rfl⟩ := Option.map_eq_some_iff.mp h
      simp only [walk, hcursor]
      rfl
  | argument name type =>
      obtain ⟨value, hvalue, rfl⟩ := Option.map_eq_some_iff.mp h
      simp only [walk, hvalue, closes, Bool.false_eq_true, if_false, fallback?,
        entryEvents, Option.map_some, Option.toList_some]
      rfl

/-- The five ways in which the walk of a node can go. -/
inductive Course (commands : List String) (node : Node α) (context : Context) :
    Prop where
  | barred
      (henter : node.enter? commands context = none)
      (hwalk : node.walk commands context =
        .refused
          ((node.complaints commands context).map
            (Event.reported · context.cursor.offset))
          (node.rebuffed commands context))
  | ended (next : Context)
      (henter : node.enter? commands context = some next)
      (hcloses : node.closes next = true)
      (hwalk : node.walk commands context =
        (Walk.accepted node.action next).after (node.entryEvents commands context))
  | handedOn (next : Context) (given : Option α)
      (henter : node.enter? commands context = some next)
      (hopen : node.closes next = false)
      (hbelow : (walkAny commands node.children next).verdict = .accepted given)
      (hwalk : node.walk commands context =
        (walkAny commands node.children next).after
          (node.entryEvents commands context))
  | fellBack (next : Context) (action : α)
      (henter : node.enter? commands context = some next)
      (hopen : node.closes next = false)
      (hbelow : (walkAny commands node.children next).verdict = .refused)
      (hfallback : node.fallback? = some action)
      (hwalk : node.walk commands context =
        { walkAny commands node.children next with
          verdict := .accepted (some action) }.after
          (node.entryEvents commands context))
  | backedOut (next : Context)
      (henter : node.enter? commands context = some next)
      (hopen : node.closes next = false)
      (hbelow : (walkAny commands node.children next).verdict = .refused)
      (hfallback : node.fallback? = none)
      (hwalk : node.walk commands context =
        { walkAny commands node.children next with
          context := node.backOut commands context
            (walkAny commands node.children next).context }.after
          (node.entryEvents commands context))

theorem course (commands : List String) (node : Node α) (context : Context) :
    Course commands node context := by
  cases henter : node.enter? commands context with
  | none => exact .barred henter (walk_of_enter?_eq_none henter)
  | some next =>
      have hwalk := walk_of_enter?_eq_some henter
      cases hcloses : node.closes next with
      | true =>
          rw [if_pos hcloses] at hwalk
          exact .ended next henter hcloses hwalk
      | false =>
          rw [if_neg (by simp [hcloses])] at hwalk
          cases hbelow : (walkAny commands node.children next).verdict with
          | accepted given =>
              rw [Walk.settle_of_accepted hbelow] at hwalk
              exact .handedOn next given henter hcloses hbelow hwalk
          | refused =>
              cases hfallback : node.fallback? with
              | some action =>
                  rw [hfallback, Walk.settle_some_of_refused hbelow] at hwalk
                  exact .fellBack next action henter hcloses hbelow hfallback hwalk
              | none =>
                  rw [hfallback, Walk.settle_none_of_refused hbelow] at hwalk
                  exact .backedOut next henter hcloses hbelow hfallback hwalk

/-! ## Siblings -/

theorem walkAny_cons_of_accepted {commands : List String} {node : Node α}
    {context : Context} {given : Option α}
    (h : (node.walk commands context).verdict = .accepted given)
    (rest : List (Node α)) :
    walkAny commands (node :: rest) context = node.walk commands context := by
  simp [walkAny, h]

theorem walkAny_cons_of_refused {commands : List String} {node : Node α}
    {context : Context} (h : (node.walk commands context).verdict = .refused)
    (rest : List (Node α)) :
    walkAny commands (node :: rest) context =
      (walkAny commands rest (node.walk commands context).context).after
        (node.walk commands context).events := by
  simp [walkAny, h]

/-- If none of several trees takes the line, the first does not, and the others
do not where the first left off. -/
theorem refused_of_walkAny_cons {commands : List String} {node : Node α}
    {rest : List (Node α)} {context : Context}
    (h : (walkAny commands (node :: rest) context).verdict = .refused) :
    (node.walk commands context).verdict = .refused ∧
      (walkAny commands rest (node.walk commands context).context).verdict =
        .refused := by
  cases hfirst : (node.walk commands context).verdict with
  | accepted given =>
      rw [walkAny_cons_of_accepted hfirst, hfirst] at h
      simp at h
  | refused =>
      rw [walkAny_cons_of_refused hfirst] at h
      exact ⟨rfl, h⟩

theorem walkAny_append_of_accepted {commands : List String} {front : List (Node α)}
    {context : Context} {given : Option α}
    (h : (walkAny commands front context).verdict = .accepted given)
    (rest : List (Node α)) :
    walkAny commands (front ++ rest) context = walkAny commands front context := by
  induction front generalizing context with
  | nil => simp [walkAny, Walk.refused] at h
  | cons node front ih =>
      rw [List.cons_append]
      cases hfirst : (node.walk commands context).verdict with
      | accepted given =>
          rw [walkAny_cons_of_accepted hfirst, walkAny_cons_of_accepted hfirst]
      | refused =>
          rw [walkAny_cons_of_refused hfirst] at h
          rw [walkAny_cons_of_refused hfirst, walkAny_cons_of_refused hfirst, ih h]

/-- Trees come to their turn in the state that those before them leave. -/
theorem walkAny_append_of_refused {commands : List String} {front : List (Node α)}
    {context : Context} (h : (walkAny commands front context).verdict = .refused)
    (rest : List (Node α)) :
    walkAny commands (front ++ rest) context =
      (walkAny commands rest (walkAny commands front context).context).after
        (walkAny commands front context).events := by
  induction front generalizing context with
  | nil => simp [walkAny, Walk.refused, Walk.after]
  | cons node front ih =>
      obtain ⟨hfirst, hlater⟩ := refused_of_walkAny_cons h
      rw [List.cons_append, walkAny_cons_of_refused hfirst, walkAny_cons_of_refused hfirst,
        ih hlater]
      simp [Walk.after]

/-- Trees each of which is passed over without a trace are passed over together. -/
theorem walkAny_of_passed {commands : List String} {trees : List (Node α)}
    {context : Context}
    (htrees : ∀ tree ∈ trees, tree.walk commands context = .refused [] context) :
    walkAny commands trees context = .refused [] context := by
  induction trees with
  | nil => rfl
  | cons tree rest ih =>
      have hwalk := htrees tree List.mem_cons_self
      have hrefused : (tree.walk commands context).verdict = .refused := by
        rw [hwalk]
        rfl
      have hlater := ih fun other hother => htrees other (List.mem_cons_of_mem tree hother)
      rw [walkAny_cons_of_refused hrefused, hwalk]
      exact congrArg (Walk.after []) hlater

/-! ## Events -/

theorem forall_events_walkAny {commands : List String} {P : Event → Prop}
    {children : List (Node α)}
    (hchildren : ∀ child ∈ children, ∀ context,
      ∀ event ∈ (child.walk commands context).events, P event)
    (context : Context) :
    ∀ event ∈ (walkAny commands children context).events, P event := by
  induction children generalizing context with
  | nil => simp [walkAny, Walk.refused]
  | cons child rest ih =>
      have hfirst := hchildren child List.mem_cons_self context
      cases hverdict : (child.walk commands context).verdict with
      | accepted given =>
          rw [walkAny_cons_of_accepted hverdict]
          exact hfirst
      | refused =>
          have hlater := ih (fun sibling hsibling =>
            hchildren sibling (List.mem_cons_of_mem child hsibling))
            (child.walk commands context).context
          rw [walkAny_cons_of_refused hverdict, Walk.events_after]
          intro event hevent
          rcases List.mem_append.mp hevent with hmem | hmem
          · exact hfirst event hmem
          · exact hlater event hmem

/-- What holds of the events of each node by itself holds of all events of a walk,
also of those in branches that failed. -/
theorem forall_events_walk {commands : List String} {P : Event → Prop}
    {node : Node α}
    (hcomplaints : ∀ part ∈ node.nodes, ∀ context,
      ∀ diagnostic ∈ part.complaints commands context,
        P (.reported diagnostic context.cursor.offset))
    (hentry : ∀ part ∈ node.nodes, ∀ context next,
      part.enter? commands context = some next →
        ∀ event ∈ part.entryEvents commands context, P event)
    (context : Context) :
    ∀ event ∈ (node.walk commands context).events, P event := by
  induction node using treeInduction generalizing context with
  | step node ih =>
      have hbelow : ∀ next, ∀ event ∈ (walkAny commands node.children next).events,
          P event := by
        intro next
        refine forall_events_walkAny ?_ next
        intro child hchild
        exact ih child hchild
          (fun part hpart => hcomplaints part (mem_nodes_of_mem_child hchild hpart))
          (fun part hpart => hentry part (mem_nodes_of_mem_child hchild hpart))
      have hown := hentry node node.self_mem_nodes context
      intro event hevent
      cases node.course commands context with
      | barred henter hwalk =>
          rw [hwalk] at hevent
          obtain ⟨diagnostic, hmem, rfl⟩ := List.mem_map.mp hevent
          exact hcomplaints node node.self_mem_nodes context diagnostic hmem
      | ended next henter hcloses hwalk =>
          rw [hwalk] at hevent
          rcases List.mem_append.mp hevent with hmem | hmem
          · exact hown next henter event hmem
          · simp [Walk.accepted] at hmem
      | handedOn next _ henter _ _ hwalk | fellBack next _ henter _ _ _ hwalk
      | backedOut next henter _ _ _ hwalk =>
          rw [hwalk] at hevent
          rcases List.mem_append.mp hevent with hmem | hmem
          · exact hown next henter event hmem
          · exact hbelow next event hmem

end Node

end CommandTree
