import CommandTree.Node.Basic

/-!
# Walking a tree

`Node.walk` matches a tree against what is ahead of a cursor, depth first.  A literal has
to come next as a whole word; an argument has to be read by its type.  A node that has
been entered succeeds if the line ends with its literal, or one of its children succeeds,
or it has an action of its own to leave the rest of the line to.  Otherwise it is backed
out of: the cursor goes back to where it was and so does the binding of its argument.

A walk tells what happened on the way, in all branches that were tried.
-/

namespace CommandTree

/-- Something that happened on a walk. -/
inductive Event where
  /-- A literal was found, at an offset. -/
  | consumed (token : String) (offset : Nat)
  | bound (name : String) (value : Value)
  | reported (diagnostic : Diagnostic) (offset : Nat)
deriving DecidableEq, Repr

/-- How a walk came out. -/
inductive Verdict (α : Type) where
  | refused
  /-- A path took the line; its last node has this action. -/
  | accepted (action : Option α)

/-- The report of a walk. -/
structure Walk (α : Type) where
  events : List Event
  context : Context
  verdict : Verdict α

namespace Verdict

variable {α : Type}

/-- Whether a path took the line. -/
def isAccepted : Verdict α → Bool
  | refused => false
  | accepted _ => true

/-- The action that fires. -/
def action? : Verdict α → Option α
  | refused => none
  | accepted action => action

end Verdict

namespace Walk

variable {α : Type}

/-- A walk that went nowhere. -/
def refused (events : List Event) (context : Context) : Walk α :=
  { events, context, verdict := .refused }

/-- A walk that ends at a node with the given action. -/
def accepted (action : Option α) (context : Context) : Walk α :=
  { events := [], context, verdict := .accepted action }

/-- The walk as it goes on after earlier events. -/
def after (events : List Event) (walk : Walk α) : Walk α :=
  { walk with events := events ++ walk.events }

/-- What becomes of a node whose children were walked: if none of them took the line, its own
action does, and without one the node is backed out of. -/
def settle (below : Walk α) (action : Option α) (undo : Context → Context) : Walk α :=
  match below.verdict with
  | .accepted _ => below
  | .refused =>
    match action with
    | some action => { below with verdict := .accepted (some action) }
    | none => { below with context := undo below.context }

end Walk

namespace Walk

variable {α : Type}

@[simp] theorem verdict_after (events : List Event) (walk : Walk α) :
    (walk.after events).verdict = walk.verdict := rfl

@[simp] theorem context_after (events : List Event) (walk : Walk α) :
    (walk.after events).context = walk.context := rfl

@[simp] theorem events_after (events : List Event) (walk : Walk α) :
    (walk.after events).events = events ++ walk.events := rfl

/-- Settling a node adds no events. -/
@[simp] theorem events_settle (below : Walk α) (action : Option α) (undo : Context → Context) :
    (below.settle action undo).events = below.events := by
  unfold settle
  split
  · rfl
  · split <;> rfl

/-- A node fails only if its children do and it has no action. -/
theorem verdict_settle_eq_refused_iff {below : Walk α} {action : Option α}
    {undo : Context → Context} :
    (below.settle action undo).verdict = .refused ↔ below.verdict = .refused ∧ action = none := by
  unfold settle
  split
  · next h => simp [h]
  · next h => split <;> simp [h]

end Walk

namespace Node

variable {α : Type}

/-- The events of a refused argument. -/
def refusal (name : String) (optional : Bool) (reports : List Diagnostic) (offset : Nat) :
    List Event :=
  let missing := if optional then [] else [Diagnostic.missingArgument name]
  (reports ++ missing).map (Event.reported · offset)

mutual

/-- Match a tree, where `commands` are the registered commands. -/
def walk (commands : List String) : Node α → Context → Walk α
  | ⟨.root, children, _, _, _⟩, context => walkAny commands children context
  | ⟨.literal token, children, action, _, _⟩, context =>
    match context.cursor.consume? token with
    | none => .refused [] context
    | some cursor =>
      let entered := context.moveTo cursor
      let below :=
        if cursor.atEnd then .accepted action entered
        else
          (walkAny commands children entered).settle action fun last =>
            last.moveTo context.cursor
      below.after [.consumed token context.cursor.offset]
  | ⟨.argument name type, children, action, optional, _⟩, context =>
    let reading := type.read commands context
    match reading.value? with
    | none =>
      .refused (refusal name optional reading.reports context.cursor.offset)
        (reading.context.moveTo context.cursor)
    | some value =>
      let found := reading.reports.map (Event.reported · context.cursor.offset)
      let below := walkAny commands children (reading.context.bind name value)
      let settled := below.settle action fun last =>
        { cursor := context.cursor
          bindings := last.bindings.restore name reading.context.bindings[name]? }
      settled.after (found ++ [.bound name value])

/-- Match trees until one succeeds. -/
def walkAny (commands : List String) : List (Node α) → Context → Walk α
  | [], context => .refused [] context
  | node :: rest, context =>
    let first := node.walk commands context
    match first.verdict with
    | .accepted _ => first
    | .refused => (walkAny commands rest first.context).after first.events

end

end Node

end CommandTree
