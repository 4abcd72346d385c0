/-!
# Diagnostics

A diagnostic says why a line, or one argument of it, was refused.  Refusals are
ordinary results of matching: they are shown to the user and matching goes on.
`Diagnostic.text` is the wording the user sees.
-/

namespace CommandTree

/-- A reason why a line or a value was refused. -/
inductive Diagnostic where
  | notFound (line : String)
  | missingArgument (name : String)
  | patternMismatch (pattern : String)
  /-- A value was not on the list; the list is given as one text. -/
  | notInList (allowed : String)
  | rejectedByPredicate
  | tooShort (minimum : Nat)
  | tooLong (maximum : Nat)
  | belowMinimum (minimum : Int)
  | aboveMaximum (maximum : Int)
deriving DecidableEq, Repr

namespace Diagnostic

/-- The refusal of a value outside a list: the allowed values are joined by commas. -/
def outside (allowed : List String) : Diagnostic :=
  .notInList (",".intercalate allowed)

/-- The wording shown to the user. -/
def text : Diagnostic → String
  | notFound line => "Command not found or invalid usage: \"" ++ line ++ "\""
  | missingArgument name => "Missing required argument for \"" ++ name ++ "\""
  | patternMismatch pattern =>
    "Input does not match the allowed pattern \"" ++ pattern ++ "\"."
  | notInList allowed => "string is not in the allowed list \"" ++ allowed ++ "\"."
  | rejectedByPredicate => "string is not allowed by allows function"
  | tooShort minimum => "string is too short. Minimum length is " ++ minimum.repr ++ "."
  | tooLong maximum => "string is too long. Maximum length is " ++ maximum.repr ++ "."
  | belowMinimum minimum =>
    "integer is too small. Minimum is " ++ minimum.repr ++ "."
  | aboveMaximum maximum =>
    "integer is too large. Maximum is " ++ maximum.repr ++ "."

end Diagnostic

end CommandTree
