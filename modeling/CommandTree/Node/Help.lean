import CommandTree.Node.Basic

/-!
# Help

The help on a tree has a line for every node but roots: the word of a literal or the name
of an argument, and the description.  Each line stands two spaces to the right of the one
for the node above.
-/

namespace CommandTree

namespace NodeKind

/-- How a node is called in the help.  A root has no line. -/
def label? (optional : Bool) : NodeKind → Option String
  | root => none
  | literal token => some token
  | argument name _ => some ("<" ++ name ++ ">" ++ if optional then " [optional]" else "")

end NodeKind

namespace Node

variable {α : Type}

/-- What the line for a node says after its label. -/
def describedBy (description : String) : String :=
  if description.isEmpty then "" else " - " ++ description

def indentStep : String := "  "

mutual

/-- The help on a tree whose first line is set in by `indent`. -/
def help (indent : String) : Node α → String
  | ⟨kind, children, _, optional, description⟩ =>
    match kind.label? optional with
    | none => helpAll indent children
    | some label =>
      indent ++ label ++ describedBy description ++ "\n"
        ++ helpAll (indent ++ indentStep) children

/-- The help on several trees, one after the other. -/
def helpAll (indent : String) : List (Node α) → String
  | [] => ""
  | node :: rest => node.help indent ++ helpAll indent rest

end

end Node

end CommandTree
