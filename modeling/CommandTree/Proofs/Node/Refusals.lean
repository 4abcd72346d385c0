import CommandTree.Proofs.Node.Frame

/-!
# What a refused walk reports

Diagnostics are reported while a tree is explored and are never taken back, so that
those of a refused walk come from every branch that was tried.  They are described
here by the tree alone: go through the addresses of the tree from top to bottom,
keep those at which all nodes above can be parsed one after the other, and report
the arguments there that cannot be.

The main result, `diagnostics_of_walk_refused`, says that a refused walk reports
exactly that if the argument types are disciplined.
-/

namespace CommandTree

/-- The diagnostic of an event that is a report. -/
def Event.diagnostic? : Event → Option Diagnostic
  | reported diagnostic _ => some diagnostic
  | _ => none

/-- The diagnostics reported on a walk, in order. -/
def Walk.diagnostics {α : Type} (walk : Walk α) : List Diagnostic :=
  walk.events.filterMap Event.diagnostic?

namespace Node

variable {α : Type}

/-! ## Addresses -/

mutual

/-- The addresses of the nodes of a tree, each before those below it.  An address
lists the child positions on the way down. -/
def addresses : Node α → List (List Nat)
  | ⟨_, children, _, _, _⟩ => [] :: addressesFrom 0 children

/-- The addresses of the nodes of siblings, the first of which has the position
`start`. -/
def addressesFrom (start : Nat) : List (Node α) → List (List Nat)
  | [] => []
  | node :: rest => (addresses node).map (start :: ·) ++ addressesFrom (start + 1) rest

end

/-- The node at an address and the state in which it is reached, if all nodes
above it can be parsed one after the other. -/
def reach? (commands : List String) : Node α → Context → List Nat →
    Option (Node α × Context)
  | node, context, [] => some (node, context)
  | node, context, position :: address => do
      let next ← node.enter? commands context
      let child ← node.children[position]?
      reach? commands child next address

/-- What is reported of a node that is reached: of an argument that cannot be read
the reason its type gives, if any, and that it is missing, unless it is optional. -/
def reportsAt (commands : List String) (node : Node α) (context : Context) :
    List Diagnostic :=
  match node.kind with
  | .argument name type =>
      let reading := type.read commands context
      match reading.value? with
      | some _ => []
      | none =>
          reading.reports.head?.toList ++
            if node.optional then [] else [.missingArgument name]
  | _ => []

/-- The reports of a tree none of whose nodes takes the line, from top to bottom. -/
def refusals (commands : List String) (node : Node α) (context : Context) :
    List Diagnostic :=
  node.addresses.flatMap fun address =>
    match node.reach? commands context address with
    | some (part, state) => part.reportsAt commands state
    | none => []

/-- Where positions do not matter, siblings need not be numbered. -/
theorem flatMap_zipIdx {β : Type} (trees : List (Node α)) (f : Node α → List β) :
    (trees.zipIdx.flatMap fun entry => f entry.1) = trees.flatMap f := by
  conv_rhs => rw [← List.zipIdx_map_fst 0 trees, List.flatMap_map]

theorem addresses_eq_cons (node : Node α) :
    node.addresses = [] :: addressesFrom 0 node.children := by
  obtain ⟨kind, children, action, optional, description⟩ := node
  rw [addresses]

theorem addressesFrom_eq_flatMap (start : Nat) (trees : List (Node α)) :
    addressesFrom start trees =
      (trees.zipIdx start).flatMap fun entry =>
        entry.1.addresses.map (entry.2 :: ·) := by
  induction trees generalizing start with
  | nil => simp [addressesFrom]
  | cons tree rest ih => simp [addressesFrom, List.zipIdx_cons, ih]

/-- The reports of a tree are those of its root and of the trees below it. -/
theorem refusals_eq (commands : List String) (node : Node α) (context : Context) :
    node.refusals commands context =
      node.reportsAt commands context ++
        match node.enter? commands context with
        | some next =>
            node.children.flatMap fun child => child.refusals commands next
        | none => [] := by
  rw [refusals, addresses_eq_cons, List.flatMap_cons, addressesFrom_eq_flatMap,
    List.flatMap_assoc]
  congr 1
  cases henter : node.enter? commands context with
  | none => simp [reach?, henter]
  | some next =>
      have hchild : ∀ entry ∈ node.children.zipIdx,
          (entry.1.addresses.map (entry.2 :: ·)).flatMap
            (fun address =>
              match node.reach? commands context address with
              | some (part, state) => part.reportsAt commands state
              | none => []) =
            entry.1.refusals commands next := by
        rintro ⟨child, position⟩ hmem
        have hposition := List.mk_mem_zipIdx_iff_getElem?.mp hmem
        simp [List.flatMap_map, reach?, henter, hposition, refusals]
      rw [List.flatMap_congr hchild]
      exact flatMap_zipIdx node.children fun child => child.refusals commands next

/-! ## Parsing one node -/

variable {commands : List String}

/-- Disciplined types make the same of two states with one cursor. -/
theorem cursor_enter?_congr (commands : List String) {node : Node α}
    (htypes : node.AllTypes ArgumentType.Disciplined) {context other : Context}
    (hcursor : context.cursor = other.cursor) :
    (node.enter? commands context).map Context.cursor =
      (node.enter? commands other).map Context.cursor := by
  cases hkind : node.kind with
  | root => simp [enter?, hkind, hcursor]
  | literal token =>
      simp [enter?, hkind, hcursor, Context.moveTo, Function.comp_def]
  | argument name type =>
      have houtcome := (htypes.own hkind).cursorOnly commands hcursor
      simp only [Reading.outcome, Prod.mk.injEq] at houtcome
      obtain ⟨hvalue, hafter, -⟩ := houtcome
      simp [enter?, hkind, hvalue, hafter, Context.bind, Function.comp_def]

theorem reportsAt_congr {node : Node α}
    (htypes : node.AllTypes ArgumentType.Disciplined) {context other : Context}
    (hcursor : context.cursor = other.cursor) :
    node.reportsAt commands context = node.reportsAt commands other := by
  cases hkind : node.kind with
  | root => simp [reportsAt, hkind]
  | literal token => simp [reportsAt, hkind]
  | argument name type =>
      have houtcome := (htypes.own hkind).cursorOnly commands hcursor
      simp only [Reading.outcome, Prod.mk.injEq] at houtcome
      obtain ⟨hvalue, -, hreports⟩ := houtcome
      simp [reportsAt, hkind, hvalue, hreports]

theorem reportsAt_of_enter?_eq_some {node : Node α} {context next : Context}
    (henter : node.enter? commands context = some next) :
    node.reportsAt commands context = [] := by
  cases hkind : node.kind with
  | root => simp [reportsAt, hkind]
  | literal token => simp [reportsAt, hkind]
  | argument name type =>
      obtain ⟨value, hvalue, -⟩ := exists_value_of_enter?_argument hkind henter
      simp [reportsAt, hkind, hvalue]

theorem reportsAt_of_enter?_eq_none {node : Node α}
    (htypes : node.AllTypes ArgumentType.Disciplined) {context : Context}
    (henter : node.enter? commands context = none) :
    node.reportsAt commands context = node.complaints commands context := by
  cases hkind : node.kind with
  | root => simp [reportsAt, complaints, hkind]
  | literal token => simp [reportsAt, complaints, hkind]
  | argument name type =>
      have hvalue : (type.read commands context).value? = none := by
        simpa [enter?, hkind] using henter
      have hhead := (htypes.own hkind).toList_head?_reports commands context
      simp [reportsAt, complaints, hkind, hvalue, hhead]

/-- An argument that is read reports nothing. -/
theorem diagnostics_entryEvents {node : Node α}
    (htypes : node.AllTypes ArgumentType.Disciplined) {context next : Context}
    (henter : node.enter? commands context = some next) :
    (node.entryEvents commands context).filterMap Event.diagnostic? = [] := by
  cases hkind : node.kind with
  | root => simp [entryEvents, hkind]
  | literal token => simp [entryEvents, hkind, Event.diagnostic?]
  | argument name type =>
      obtain ⟨value, hvalue, -⟩ := exists_value_of_enter?_argument hkind henter
      have hsilent := (htypes.own hkind).silent commands context hvalue
      simp [entryEvents, hkind, hvalue, hsilent, Event.diagnostic?]

/-! ## Whole trees -/

theorem diagnostics_of_walkAny_refused {children : List (Node α)} {other : Context}
    (hchildren : ∀ child ∈ children, ∀ context, context.cursor = other.cursor →
      (child.walk commands context).verdict = .refused →
        (child.walk commands context).diagnostics = child.refusals commands other)
    {context : Context} (hcursor : context.cursor = other.cursor)
    (h : (walkAny commands children context).verdict = .refused) :
    (walkAny commands children context).diagnostics =
      children.flatMap fun child => child.refusals commands other := by
  induction children generalizing context with
  | nil => simp [walkAny, Walk.refused, Walk.diagnostics]
  | cons child rest ih =>
      obtain ⟨hchild, hrest⟩ := refused_of_walkAny_cons h
      have hfirst := hchildren child List.mem_cons_self context hcursor hchild
      have hcursor' := (cursor_of_walk_refused hchild).trans hcursor
      have hlater := ih (fun sibling hsibling =>
        hchildren sibling (List.mem_cons_of_mem child hsibling)) hcursor' hrest
      rw [walkAny_cons_of_refused hchild, List.flatMap_cons, ← hfirst, ← hlater]
      simp [Walk.diagnostics]

/-- A refused walk reports, from top to bottom, what is to be said of the nodes
that were reached.  Only the cursor of the state it starts from matters. -/
theorem diagnostics_of_walk_refused {node : Node α}
    (htypes : node.AllTypes ArgumentType.Disciplined) {context other : Context}
    (hcursor : context.cursor = other.cursor)
    (h : (node.walk commands context).verdict = .refused) :
    (node.walk commands context).diagnostics = node.refusals commands other := by
  induction node using treeInduction generalizing context other with
  | step node ih =>
      have hcongr := cursor_enter?_congr commands htypes hcursor
      rw [refusals_eq, ← reportsAt_congr htypes hcursor]
      cases node.course commands context with
      | barred henter hwalk =>
          have hother : node.enter? commands other = none := by
            simpa [henter] using hcongr.symm
          rw [hwalk, hother, reportsAt_of_enter?_eq_none htypes henter]
          simp [Walk.diagnostics, Walk.refused, List.filterMap_map,
            Function.comp_def, Event.diagnostic?]
      | backedOut next henter hopen hbelow hfallback hwalk =>
          rw [henter, Option.map_some] at hcongr
          obtain ⟨next', hother, hnext⟩ := Option.map_eq_some_iff.mp hcongr.symm
          have hdiagnostics := diagnostics_of_walkAny_refused
            (fun child hchild context hcursor hrefused =>
              ih child hchild (htypes.of_mem_children hchild) hcursor hrefused)
            hnext.symm hbelow
          rw [hwalk, hother, reportsAt_of_enter?_eq_some henter, List.nil_append]
          simp only
          rw [← hdiagnostics]
          simp [Walk.diagnostics, diagnostics_entryEvents htypes henter]
      | ended next henter hcloses hwalk => simp [hwalk, Walk.accepted] at h
      | handedOn next given henter hopen hbelow hwalk => simp [hwalk, hbelow] at h
      | fellBack next action henter hopen hbelow hfallback hwalk =>
          simp [hwalk] at h

end Node

end CommandTree
