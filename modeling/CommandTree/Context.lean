import CommandTree.Argument.Bindings
import CommandTree.Cursor

/-!
# Contexts

The state of matching one line: how far the line has been read, and the arguments found
on the way.
-/

namespace CommandTree

/-- The state of matching. -/
structure Context where
  cursor : Cursor
  bindings : Bindings := ∅

namespace Context

def start (line : String) : Context := { cursor := .start line.toList }

/-- Move to another place of the line. -/
def moveTo (context : Context) (cursor : Cursor) : Context :=
  { context with cursor }

/-- Bind an argument. -/
def bind (context : Context) (name : String) (value : Value) : Context :=
  { context with bindings := context.bindings.bind name value }

end Context

end CommandTree
