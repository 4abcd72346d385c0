import CommandTree.Text.Quoted

/-!
# Argument values

The value of an argument is a whole number or a text.
-/

namespace CommandTree

/-- A value read from a line. -/
inductive Value where
  | integer (number : Int)
  | text (text : String)
deriving DecidableEq, Repr

namespace Value

def text? : Value → Option String
  | integer _ => none
  | text t => some t

/-- The number of a number value. -/
def integer? : Value → Option Int
  | integer n => some n
  | text _ => none

/-- A value as it is shown to the user. -/
def display : Value → String
  | integer n => n.repr
  | text t => t

/-- A value as it stands in a record, with its kind. -/
def tagged : Value → String
  | integer n => "Integer(" ++ n.repr ++ ")"
  | text t => "String(" ++ Text.quoted t ++ ")"

end Value

end CommandTree
