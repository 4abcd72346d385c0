import CommandTree.Argument.Integer
import CommandTree.Argument.Text

/-!
# Argument types

An argument type reads a value at a cursor.  Besides numbers and texts a type can be any
function of the registered commands and the state of matching; three such types are
given.
-/

namespace CommandTree

inductive ArgumentType where
  | integer (type : IntegerType)
  | text (type : TextType)
  /-- Whatever a function reads, given the registered commands and the state of matching. -/
  | custom (read : List String → Context → Reading)

namespace ArgumentType

/-- Read a value, where `commands` are the registered commands. -/
def read (commands : List String) : ArgumentType → Context → Reading
  | integer type, context => type.read context
  | text type, context => type.read commands context
  | custom read, context => read commands context

/-- All that is left of the line, blanks included. -/
def rest : ArgumentType :=
  custom fun _ context =>
    .accepted context (.text (String.ofList context.cursor.ahead)) context.cursor.toEnd

/-- The empty text, for which nothing of the line is used. -/
def nothing : ArgumentType :=
  custom fun _ context => .accepted context (.text "") context.cursor

/-- A type that refuses everything, but only after it has moved the cursor to the end and
bound a name. -/
def leaky : ArgumentType :=
  custom fun _ context =>
    .refused ((context.moveTo context.cursor.toEnd).bind "leak" (.integer 1)) []

end ArgumentType

end CommandTree
