import CommandTree.Argument.Type
import CommandTree.Fault
import CommandTree.Output.Message

/-!
# Command trees

A command is a path through a tree: literals are words that have to be written as they
are, arguments are values of a type, and a root stands for nothing but its children.  A
node may carry an action of any kind `α`, which fires when a line ends at the node.
-/

namespace CommandTree

/-- What a node stands for in a line. -/
inductive NodeKind where
  | root
  | literal (token : String)
  | argument (name : String) (type : ArgumentType)

/-- A tree of commands with actions in `α`. -/
structure Node (α : Type) where
  kind : NodeKind
  /-- The nodes that can follow, in the order in which they are tried. -/
  children : List (Node α) := []
  action : Option α := none
  /-- Whether a missing value is passed over in silence. -/
  optional : Bool := false
  description : String := ""

namespace NodeKind

/-- The word of a literal. -/
def literal? : NodeKind → Option String
  | literal token => some token
  | _ => none

/-- The name of an argument. -/
def argument? : NodeKind → Option String
  | argument name _ => some name
  | _ => none

/-- What is wrong with a node of this kind, whatever its children are. -/
def fault? : NodeKind → Option RegistrationFault
  | root => some .rootNode
  | literal token =>
    if token.isEmpty then some .emptyLiteral
    else if token.toList.any Text.isBlank then some (.blankInLiteral token)
    else none
  | argument name _ => if name.isEmpty then some .unnamedArgument else none

end NodeKind

namespace Node

variable {α : Type}

def root (children : List (Node α)) : Node α := { kind := .root, children }

def literal? (node : Node α) : Option String := node.kind.literal?

def argument? (node : Node α) : Option String := node.kind.argument?

/-- The nodes in a row, each the last child of the one before. -/
def chain : Node α → List (Node α) → Node α
  | first, [] => first
  | first, second :: rest =>
    { first with children := first.children ++ [chain second rest] }

mutual

/-- The nodes of a tree, each before those below it. -/
def nodes : Node α → List (Node α)
  | ⟨kind, children, action, optional, description⟩ =>
    ⟨kind, children, action, optional, description⟩ :: nodesOfAll children

/-- The nodes of several trees. -/
def nodesOfAll : List (Node α) → List (Node α)
  | [] => []
  | node :: rest => nodes node ++ nodesOfAll rest

end

/-- What is wrong with a tree: the first fault of its nodes. -/
def fault? (node : Node α) : Option RegistrationFault :=
  node.nodes.findSome? fun part => part.kind.fault?

/-- The record left by a literal that is marked optional, which has no effect. -/
def optionalLiteral : Record := ⟨.warn, "optional() has no effect on a literal node"⟩

/-- The records left by the building of a tree. -/
def buildRecords (node : Node α) : List Record :=
  node.nodes.filterMap fun part =>
    if part.optional && part.literal?.isSome then some optionalLiteral else none

end Node

end CommandTree
