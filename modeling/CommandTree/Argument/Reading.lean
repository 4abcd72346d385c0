import CommandTree.Context
import CommandTree.Diagnostic

/-!
# Readings

A reading is what an argument type makes of the text at a cursor: a value or a refusal,
the state of matching it leaves behind, and the diagnostics it reports.  A well-behaved
type that refuses leaves the state as it was; a reading does not promise that.
-/

namespace CommandTree

/-- What an argument type makes of a context. -/
structure Reading where
  /-- The value read, unless the type refuses. -/
  value? : Option Value
  context : Context
  reports : List Diagnostic := []

namespace Reading

/-- A refusal that changes nothing. -/
def refused (context : Context) (reports : List Diagnostic) : Reading :=
  { value? := none, context, reports }

/-- A value, after which the cursor stands elsewhere. -/
def accepted (context : Context) (value : Value) (cursor : Cursor) : Reading :=
  { value? := some value, context := context.moveTo cursor }

end Reading

end CommandTree
