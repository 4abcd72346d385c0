import CommandTree.Json.Basic

/-!
# How JSON documents are written

The grammar of JSON as a relation: which texts write which documents (`Json.Writes`).  A string
is written unit by unit; units are characters, or numbers in hexadecimal digits of which two in
a row may stand for one character (`Json.Encodes`).
-/

namespace CommandTree.Json

/-! ## Spaces and numbers -/

/-- What may stand between the parts of a document. -/
def IsSpace (text : List Char) : Prop :=
  ∀ c ∈ text, c = ' ' ∨ c = '\t' ∨ c = '\n' ∨ c = '\r'

/-- One or more decimal digits. -/
structure IsDigits (text : List Char) : Prop where
  ne_nil : text ≠ []
  digits : ∀ c ∈ text, c.isDigit = true

/-- Digits without a zero before others. -/
structure IsWhole (text : List Char) : Prop extends IsDigits text where
  eq_zero : text.head? = some '0' → text = ['0']

inductive IsFraction : List Char → Prop where
  | none : IsFraction []
  | places {digits : List Char} (hdigits : IsDigits digits) : IsFraction ('.' :: digits)

inductive IsExponent : List Char → Prop where
  | none : IsExponent []
  | power {mark : Char} {sign digits : List Char} (hmark : mark = 'e' ∨ mark = 'E')
      (hsign : sign = [] ∨ sign = ['+'] ∨ sign = ['-']) (hdigits : IsDigits digits) :
      IsExponent (mark :: (sign ++ digits))

inductive IsNumber : List Char → Prop where
  | mk {sign whole fraction exponent : List Char} (hsign : sign = [] ∨ sign = ['-'])
      (hwhole : IsWhole whole) (hfraction : IsFraction fraction)
      (hexponent : IsExponent exponent) :
      IsNumber (sign ++ (whole ++ (fraction ++ exponent)))

/-! ## Strings -/

/-- The letters that stand for a unit after a backslash. -/
def letters : List (Char × Nat) :=
  [('"', 0x22), ('\\', 0x5C), ('/', 0x2F), ('b', 0x08), ('f', 0x0C), ('n', 0x0A), ('r', 0x0D),
    ('t', 0x09)]

/-- A character is the hexadecimal digit of a value, small or capital. -/
def IsHexDigit (c : Char) (value : Nat) : Prop :=
  value < 16 ∧ (c = value.digitChar ∨ c = value.digitChar.toUpper)

instance (c : Char) (value : Nat) : Decidable (IsHexDigit c value) :=
  inferInstanceAs (Decidable (_ ∧ _))

/-- What follows a backslash, and the unit that it stands for. -/
inductive IsEscape : List Char → Nat → Prop where
  | letter {letter : Char} {unit : Nat} (h : (letter, unit) ∈ letters) : IsEscape [letter] unit
  | code {a b c d : Char} {i j k l : Nat} (ha : IsHexDigit a i) (hb : IsHexDigit b j)
      (hc : IsHexDigit c k) (hd : IsHexDigit d l) :
      IsEscape ['u', a, b, c, d] (0x1000 * i + 0x100 * j + 0x10 * k + l)

/-- A text writes units one after the other. -/
inductive WritesUnits : List Char → List Nat → Prop where
  | nil : WritesUnits [] []
  | plain {c : Char} {text : List Char} {units : List Nat} (hquote : c ≠ '"')
      (hescape : c ≠ '\\') (hcontrol : 0x20 ≤ c.toNat) (h : WritesUnits text units) :
      WritesUnits (c :: text) (c.toNat :: units)
  | escape {escape text : List Char} {unit : Nat} {units : List Nat}
      (hescape : IsEscape escape unit)
      (h : WritesUnits text units) : WritesUnits ('\\' :: (escape ++ text)) (unit :: units)

/-- Units stand for characters: each for the one with its code, or two halves of a pair for the
one with the code that they share. -/
inductive Encodes : List Nat → List Char → Prop where
  | nil : Encodes [] []
  | char (c : Char) {units : List Nat} {text : List Char} (h : Encodes units text) :
      Encodes (c.toNat :: units) (c :: text)
  | pair {c : Char} {high low : Nat} (hhigh : high < 0x400) (hlow : low < 0x400)
      (hcode : c.toNat = 0x10000 + 0x400 * high + low) {units : List Nat} {text : List Char}
      (h : Encodes units text) : Encodes ((0xD800 + high) :: (0xDC00 + low) :: units) (c :: text)

/-- A text in quotes writes a string.  The string has no text if its units do not stand for
characters. -/
inductive WritesString : List Char → Option String → Prop where
  | text {body : List Char} {units : List Nat} {text : String} (hbody : WritesUnits body units)
      (htext : Encodes units text.toList) : WritesString ('"' :: (body ++ ['"'])) (some text)
  | noText {body : List Char} {units : List Nat} (hbody : WritesUnits body units)
      (hnone : ∀ text, ¬ Encodes units text) : WritesString ('"' :: (body ++ ['"'])) none

/-! ## Documents -/

/-- How a member of an object is written. -/
structure WrittenMember where
  before : List Char
  /-- The text that writes the key. -/
  keyText : List Char
  between : List Char
  /-- The text that writes the value. -/
  valueText : List Char
  key : Option String
  value : Json

namespace WrittenMember

def text (member : WrittenMember) : List Char :=
  member.before ++ (member.keyText ++ (member.between ++ ':' :: member.valueText))

/-- There is but space around the key, and the key is a string. -/
structure IsKeyed (member : WrittenMember) : Prop where
  before : IsSpace member.before
  key : WritesString member.keyText member.key
  between : IsSpace member.between

end WrittenMember

/-- Parts that are separated by commas. -/
def separated (parts : List (List Char)) : List Char := [','].intercalate parts

/-- A text writes a document, with space around any of its parts. -/
inductive Writes : List Char → Json → Prop where
  | null : Writes "null".toList .null
  | yes : Writes "true".toList .scalar
  | no : Writes "false".toList .scalar
  | number {text : List Char} (h : IsNumber text) : Writes text .scalar
  | string {text : List Char} {value : Option String} (h : WritesString text value) :
      Writes text (.string value)
  | emptyArray {space : List Char} (h : IsSpace space) :
      Writes ('[' :: (space ++ [']'])) (.array [])
  | array {parts : List (List Char × Json)} (hne : parts ≠ [])
      (h : ∀ part ∈ parts, Writes part.1 part.2) :
      Writes ('[' :: (separated (parts.map Prod.fst) ++ [']'])) (.array (parts.map Prod.snd))
  | emptyObject {space : List Char} (h : IsSpace space) :
      Writes ('\x7b' :: (space ++ ['\x7d'])) (.object [])
  | object {members : List WrittenMember} (hne : members ≠ [])
      (hkeys : ∀ member ∈ members, member.IsKeyed)
      (h : ∀ member ∈ members, Writes member.valueText member.value) :
      Writes ('\x7b' :: (separated (members.map WrittenMember.text) ++ ['\x7d']))
        (.object (members.map fun member => (member.key, member.value)))
  | spaced {before text after : List Char} {document : Json} (hbefore : IsSpace before)
      (hafter : IsSpace after) (h : Writes text document) :
      Writes (before ++ (text ++ after)) document

end CommandTree.Json
