import CommandTree.Argument.Reading

/-!
# Integer arguments

An integer argument is a run of decimal digits whose number fits into 64 bits with a sign
and lies within the bounds of the type.  There is no sign to write, so no value is
negative.
-/

namespace CommandTree

structure IntegerType where
  minimum : Option Int := none
  maximum : Option Int := none
deriving DecidableEq, Repr

namespace IntegerType

open Text

/-- The greatest number that can be read at all. -/
def largest : Nat := Nat.pow 2 63 - 1

def leadingDigits (text : List Char) : List Char := text.takeWhile Char.isDigit

/-- What follows the decimal digits a text starts with. -/
def afterDigits (text : List Char) : List Char := text.dropWhile Char.isDigit

theorem leadingDigits_append_afterDigits (text : List Char) :
    leadingDigits text ++ afterDigits text = text :=
  List.takeWhile_append_dropWhile

def numberOf (digits : List Char) : Nat := Nat.ofDigitChars 10 digits 0

/-- The reason to refuse a number. -/
def check (type : IntegerType) (number : Int) : Option Diagnostic :=
  match type.minimum.filter (number < ·) with
  | some minimum => some (.belowMinimum minimum)
  | none => (type.maximum.filter (· < number)).map .aboveMaximum

/-- Read a number after any blanks.  Digits that are missing, or whose number is too large to
be read, are refused without a report. -/
def read (type : IntegerType) (context : Context) : Reading :=
  let blanks := leadingBlanks context.cursor.ahead
  let text := dropBlanks context.cursor.ahead
  let digits := leadingDigits text
  let number := numberOf digits
  if digits.isEmpty || largest < number then .refused context []
  else
    match type.check number with
    | some diagnostic => .refused context [diagnostic]
    | none =>
      .accepted context (.integer number)
        (context.cursor.advance (blanks ++ digits) (afterDigits text))

/-- A bound as it stands in a description. -/
def describeBound : Option Int → String
  | none => "None"
  | some bound => "Some(" ++ bound.repr ++ ")"

def describe (type : IntegerType) : String :=
  "IntegerArgumentType \x7b min: " ++ describeBound type.minimum ++ ", max: "
    ++ describeBound type.maximum ++ " \x7d"

end IntegerType

end CommandTree
