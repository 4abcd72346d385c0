import CommandTree.Proofs.Argument.Mark
import CommandTree.Proofs.Node.Frame

/-!
# Walking a tree with a mark

The walk of a tree saves the offset at which it enters a node and seeks it again to back out
of the node.  It also checks that a child that is refused has left the mark where it was.
Both succeed at every place of every walk, provided that the argument types keep to the
line, so the walk with a mark is the walk with a cursor.
-/

namespace CommandTree

/-- How a walk with a mark came out. -/
structure MarkedWalk (α : Type) where
  verdict : Verdict α
  context : MarkedContext

def Walk.marked {α : Type} (walk : Walk α) : MarkedWalk α :=
  ⟨walk.verdict, walk.context.marked⟩

@[simp] theorem Walk.verdict_marked {α : Type} (walk : Walk α) :
    walk.marked.verdict = walk.verdict := rfl

@[simp] theorem Walk.context_marked {α : Type} (walk : Walk α) :
    walk.marked.context = walk.context.marked := rfl

@[simp] theorem Walk.marked_after {α : Type} (events : List Event) (walk : Walk α) :
    (walk.after events).marked = walk.marked := rfl

namespace MarkedContext

def seek? (marked : MarkedContext) (offset : Nat) : Option MarkedContext :=
  (marked.mark.seek? offset).map fun mark => { marked with mark }

def bind (marked : MarkedContext) (name : String) (value : Value) : MarkedContext :=
  { marked with bindings := marked.bindings.bind name value }

/-- Set a name back to what it was bound to before. -/
def restore (marked : MarkedContext) (name : String) (value? : Option Value) :
    MarkedContext :=
  { marked with bindings := marked.bindings.restore name value? }

end MarkedContext

/-- What becomes of a node whose children were walked; backing out of it may fail. -/
def MarkedWalk.settle? {α : Type} (below : MarkedWalk α) (action : Option α)
    (undo? : MarkedContext → Option MarkedContext) : Option (MarkedWalk α) :=
  match below.verdict with
  | .accepted _ => some below
  | .refused =>
    match action with
    | some action => some { below with verdict := .accepted (some action) }
    | none => (undo? below.context).map fun context => { below with context }

namespace Node

variable {α : Type}

mutual

/-- Match a tree at a mark. -/
def walkAt? (commands : List String) : Node α → MarkedContext → Option (MarkedWalk α)
  | ⟨.root, children, _, _, _⟩, marked => walkAnyAt? commands children marked
  | ⟨.literal token, children, action, _, _⟩, marked => do
    match ← marked.mark.consume? token with
    | none => return ⟨.refused, marked⟩
    | some mark =>
      let entered := { marked with mark }
      if mark.atEnd then return ⟨.accepted action, entered⟩
      else
        let below ← walkAnyAt? commands children entered
        below.settle? action fun last => last.seek? marked.mark.offset
  | ⟨.argument name type, children, action, _, _⟩, marked => do
    let (value?, after) ← type.readAt? commands marked
    match value? with
    | none => (after.seek? marked.mark.offset).map fun last => ⟨.refused, last⟩
    | some value =>
      let below ← walkAnyAt? commands children (after.bind name value)
      below.settle? action fun last =>
        (last.restore name after.bindings[name]?).seek? marked.mark.offset

/-- Match trees at a mark until one succeeds. -/
def walkAnyAt? (commands : List String) : List (Node α) → MarkedContext →
    Option (MarkedWalk α)
  | [], marked => some ⟨.refused, marked⟩
  | node :: rest, marked => do
    let first ← node.walkAt? commands marked
    match first.verdict with
    | .accepted _ => return first
    | .refused =>
      if first.context.mark.offset = marked.mark.offset then
        walkAnyAt? commands rest first.context
      else none

end

/-! ## Seeking an offset again -/

variable {commands : List String} {context last : Context}

/-- The offset of a cursor can be sought wherever else in the line the mark stands. -/
theorem seek?_marked (hline : last.cursor.line = context.cursor.line) :
    last.marked.seek? context.cursor.offset = some (last.moveTo context.cursor).marked := by
  have hseek := Cursor.seek?_mark_offset hline
  exact congrArg (Option.map _) hseek

theorem settle?_marked {below : Walk α} {undo : Context → Context}
    {undo? : MarkedContext → Option MarkedContext}
    (hundo : below.verdict = .refused →
      undo? below.context.marked = some (undo below.context).marked)
    (action : Option α) :
    below.marked.settle? action undo? = some (below.settle action undo).marked := by
  unfold MarkedWalk.settle? Walk.settle
  rw [Walk.verdict_marked, Walk.context_marked]
  cases hverdict : below.verdict with
  | accepted given => rfl
  | refused =>
      cases action with
      | some action => rfl
      | none =>
          have hcontext := hundo hverdict
          simp [hcontext, Walk.marked]

/-! ## Whole trees -/

theorem walkAnyAt?_marked {children : List (Node α)}
    (hchildren : ∀ child ∈ children, ∀ context,
      child.walkAt? commands context.marked = some (child.walk commands context).marked)
    (context : Context) :
    walkAnyAt? commands children context.marked =
      some (walkAny commands children context).marked := by
  induction children generalizing context with
  | nil => rfl
  | cons child rest ih =>
      have hfirst := hchildren child List.mem_cons_self context
      have hrest := ih fun other hother =>
        hchildren other (List.mem_cons_of_mem child hother)
      rw [walkAnyAt?, hfirst, Option.bind_eq_bind, Option.bind_some]
      cases hverdict : (child.walk commands context).verdict with
      | accepted given =>
          have hmarked : (child.walk commands context).marked.verdict = .accepted given := hverdict
          rw [walkAny_cons_of_accepted hverdict]
          simp only [hmarked]
          rfl
      | refused =>
          have hmarked : (child.walk commands context).marked.verdict = .refused := hverdict
          have hoffset : (child.walk commands context).marked.context.mark.offset =
              context.marked.mark.offset :=
            congrArg Cursor.offset (cursor_of_walk_refused hverdict)
          rw [walkAny_cons_of_refused hverdict]
          simp only [hmarked, if_pos hoffset]
          exact hrest _

section Kinds

variable {children : List (Node α)}
  (hbelow : ∀ next : Context, walkAnyAt? commands children next.marked =
    some (walkAny commands children next).marked)

include hbelow

theorem walkAt?_marked_literal (token : String) (action : Option α) (optional : Bool)
    (description : String) (context : Context) :
    let node : Node α := ⟨.literal token, children, action, optional, description⟩
    node.walkAt? commands context.marked = some (node.walk commands context).marked := by
  intro node
  have hconsume : context.marked.mark.consume? token =
      some ((context.cursor.consume? token).map Cursor.mark) := Cursor.consume?_mark _ _
  rw [walkAt?, walk, hconsume]
  cases hcursor : context.cursor.consume? token with
  | none => rfl
  | some cursor =>
      let entered := context.moveTo cursor
      have hline : cursor.line = context.cursor.line := Cursor.line_of_consume? hcursor
      let undo : Context → Context := fun last => last.moveTo context.cursor
      let undo? : MarkedContext → Option MarkedContext := fun last =>
        last.seek? context.cursor.offset
      have hundo : (walkAny commands children entered).verdict = .refused →
          undo? (walkAny commands children entered).context.marked =
            some (undo (walkAny commands children entered).context).marked := by
        intro hrefused
        apply seek?_marked
        rw [cursor_of_walkAny_refused hrefused]
        exact hline
      have hsettle := settle?_marked hundo action
      have hwalked := hbelow entered
      have hend := cursor.atEnd_mark
      simp only [Option.map_some, Option.bind_eq_bind, Option.bind_some, hend]
      cases cursor.atEnd with
      | true => rfl
      | false =>
          simp only [Bool.false_eq_true, if_false, Walk.marked_after]
          exact (congrArg (Option.bind · _) hwalked).trans hsettle

theorem walkAt?_marked_argument (name : String) {type : ArgumentType} (htype : type.KeepsLine)
    (action : Option α) (optional : Bool) (description : String) (context : Context) :
    let node : Node α := ⟨.argument name type, children, action, optional, description⟩
    node.walkAt? commands context.marked = some (node.walk commands context).marked := by
  intro node
  have hread := type.readAt?_marked commands context
  have hline : (type.read commands context).context.cursor.line = context.cursor.line :=
    htype commands context
  rw [walkAt?, walk, hread]
  simp only [Option.bind_eq_bind, Option.bind_some]
  cases (type.read commands context).value? with
  | none =>
      have hseek := seek?_marked hline
      exact congrArg (Option.map _) hseek
  | some value =>
      let reading := type.read commands context
      let entered := reading.context.bind name value
      let undo : Context → Context := fun last =>
        { cursor := context.cursor
          bindings := last.bindings.restore name reading.context.bindings[name]? }
      let undo? : MarkedContext → Option MarkedContext := fun last =>
        (last.restore name reading.context.bindings[name]?).seek? context.cursor.offset
      have hundo : (walkAny commands children entered).verdict = .refused →
          undo? (walkAny commands children entered).context.marked =
            some (undo (walkAny commands children entered).context).marked := by
        intro hrefused
        have hlast : (walkAny commands children entered).context.cursor.line =
            context.cursor.line := by
          rw [cursor_of_walkAny_refused hrefused]
          exact hline
        have hseek := Cursor.seek?_mark_offset hlast
        exact congrArg (Option.map _) hseek
      have hsettle := settle?_marked hundo action
      exact (congrArg (Option.bind · _) (hbelow entered)).trans hsettle

end Kinds

/-- Where all types keep to the line, a tree can be walked with a mark, and the walk comes
out like the one with a cursor. -/
theorem walkAt?_marked {node : Node α} (htypes : node.AllTypes ArgumentType.KeepsLine)
    (context : Context) :
    node.walkAt? commands context.marked = some (node.walk commands context).marked := by
  induction node using treeInduction generalizing context with
  | step node ih =>
      have hbelow : ∀ next : Context, walkAnyAt? commands node.children next.marked =
          some (walkAny commands node.children next).marked :=
        walkAnyAt?_marked fun child hchild => ih child hchild (htypes.of_mem_children hchild)
      obtain ⟨kind, children, action, optional, description⟩ := node
      cases kind with
      | root => exact hbelow context
      | literal token =>
          exact walkAt?_marked_literal hbelow token action optional description context
      | argument name type =>
          exact walkAt?_marked_argument hbelow name (htypes.own rfl) action optional
            description context

/-! ## Keeping to the line -/

theorem line_enter? {node : Node α} (htypes : node.AllTypes ArgumentType.KeepsLine)
    {next : Context} (henter : node.enter? commands context = some next) :
    next.cursor.line = context.cursor.line := by
  cases hkind : node.kind with
  | root => rw [eq_of_enter?_root hkind henter]
  | literal token =>
      obtain ⟨cursor, hcursor, rfl⟩ := exists_cursor_of_enter?_literal hkind henter
      exact Cursor.line_of_consume? hcursor
  | argument name type =>
      obtain ⟨value, -, rfl⟩ := exists_value_of_enter?_argument hkind henter
      exact htypes.own hkind commands context

theorem line_walkAny {children : List (Node α)}
    (hchildren : ∀ child ∈ children, ∀ context,
      (child.walk commands context).context.cursor.line = context.cursor.line)
    (context : Context) :
    (walkAny commands children context).context.cursor.line = context.cursor.line := by
  induction children generalizing context with
  | nil => rfl
  | cons child rest ih =>
      have hfirst := hchildren child List.mem_cons_self context
      cases hverdict : (child.walk commands context).verdict with
      | accepted given =>
          rw [walkAny_cons_of_accepted hverdict]
          exact hfirst
      | refused =>
          have hlater := ih (fun other hother =>
            hchildren other (List.mem_cons_of_mem child hother))
              (child.walk commands context).context
          rw [walkAny_cons_of_refused hverdict, Walk.context_after]
          exact hlater.trans hfirst

/-- A walk ends in the line in which it began. -/
theorem line_walk {node : Node α} (htypes : node.AllTypes ArgumentType.KeepsLine)
    (context : Context) :
    (node.walk commands context).context.cursor.line = context.cursor.line := by
  induction node using treeInduction generalizing context with
  | step node ih =>
      have hbelow : ∀ next, (walkAny commands node.children next).context.cursor.line =
          next.cursor.line :=
        line_walkAny fun child hchild => ih child hchild (htypes.of_mem_children hchild)
      cases node.course commands context with
      | barred henter hwalk =>
          rw [hwalk]
          exact congrArg Cursor.line (node.cursor_rebuffed commands context)
      | ended next henter hcloses hwalk =>
          rw [hwalk]
          exact line_enter? htypes henter
      | handedOn next _ henter _ _ hwalk | fellBack next _ henter _ _ _ hwalk =>
          rw [hwalk]
          exact (hbelow next).trans (line_enter? htypes henter)
      | backedOut next henter _ hrefused _ hwalk =>
          rw [hwalk]
          exact congrArg Cursor.line
            (cursor_backOut henter (cursor_of_walkAny_refused hrefused))

end Node

end CommandTree
