import CommandTree.Text.Script.Historic
import CommandTree.Text.Script.Modern

/-!
# Scripts by name

All scripts, and the one that a name stands for.
-/

namespace CommandTree.Text.Script

/-- All scripts that characters belong to in particular. -/
def particular : List Script := widespread ++ limited ++ historic

/-- The characters that some script has in common with others. -/
def sharedByScripts : List Span := particular.flatMap shared

/-- The one of some scripts that has a given name. -/
def named? (scripts : List Script) (name : String) : Option Script :=
  scripts.find? fun script => name ∈ script.names

end CommandTree.Text.Script
