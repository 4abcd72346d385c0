import CommandTree.Json.Basic
import CommandTree.Text.Hex
import CommandTree.Text.Reader

/-!
# Reading JSON

The grammar of JSON.  Between the parts of a document there may be spaces, tabs and line
ends; strings hold no control characters; numbers have no leading zeros and no bare point.
-/

namespace CommandTree.Json

open Text Text.Reader

/-- Skip what may stand between the parts of a document. -/
def space : Text.Reader Unit :=
  Text.Reader.dropWhile fun c => c == ' ' || c == '\t' || c == '\n' || c == '\r'

/-- Units of a string that stand for text: characters, and escapes with a code that is a
character.  A high half and the low half after it stand for one character. -/
def textOfUnits : List Nat → Option (List Char)
  | [] => some []
  | [unit] => if unit.isValidChar then some [Char.ofNat unit] else none
  | unit :: second :: rest =>
    if unit.isValidChar then (textOfUnits (second :: rest)).map (Char.ofNat unit :: ·)
    else if 0xD800 ≤ unit ∧ unit ≤ 0xDBFF ∧ 0xDC00 ≤ second ∧ second ≤ 0xDFFF then
      (textOfUnits rest).map
        (Char.ofNat (0x10000 + (unit - 0xD800) * 0x400 + (second - 0xDC00)) :: ·)
    else none

def escape : Text.Reader Nat := do
  match ← next with
  | '"' => return 0x22
  | '\\' => return 0x5C
  | '/' => return 0x2F
  | 'b' => return 0x08
  | 'f' => return 0x0C
  | 'n' => return 0x0A
  | 'r' => return 0x0D
  | 't' => return 0x09
  | 'u' => return hexNumber (← takeExactly isHexDigit 4)
  | _ => refuse

/-- Read the units of a string up to the quote at its end. -/
def stringUnits : (fuel : Nat) → Text.Reader (List Nat)
  | 0 => refuse
  | fuel + 1 => do
    match ← next with
    | '"' => return []
    | '\\' =>
      let unit ← escape
      return unit :: (← stringUnits fuel)
    | c =>
      if c.toNat < 0x20 then refuse
      return c.toNat :: (← stringUnits fuel)

def stringBody : Text.Reader (Option String) := do
  let units ← stringUnits ((← rest).length + 1)
  return (textOfUnits units).map String.ofList

/-- Read the whole part of a number: digits without a leading zero. -/
def wholePart : Text.Reader Unit := do
  let digits ← takeSome Char.isDigit
  if digits.head? == some '0' && digits.length > 1 then refuse

/-- Read the part of a number after its point, if it has one. -/
def fraction : Text.Reader Unit := do
  if ← skip "." then
    let _ ← takeSome Char.isDigit

/-- Read the exponent of a number, if it has one. -/
def exponent : Text.Reader Unit := do
  if ← skip "e" <||> skip "E" then
    let _ ← skip "+" <||> skip "-"
    let _ ← takeSome Char.isDigit

def number : Text.Reader Unit := do
  let _ ← skip "-"
  wholePart
  fraction
  exponent

/-- Read a document that has no parts. -/
def simple : Text.Reader Json := do
  match ← peek? with
  | some '"' =>
    let _ ← next
    return .string (← stringBody)
  | some 'n' => expect "null"; return .null
  | some 't' => expect "true"; return .scalar
  | some 'f' => expect "false"; return .scalar
  | _ => number; return .scalar

mutual

/-- Read a document and the space before and after it. -/
def value : (fuel : Nat) → Text.Reader Json
  | 0 => refuse
  | fuel + 1 => do
    space
    let found ← bare fuel
    space
    return found

def bare : (fuel : Nat) → Text.Reader Json
  | 0 => simple
  | fuel + 1 => do
    match ← peek? with
    | some '\x7b' =>
      let _ ← next
      space
      if ← skip "\x7d" then return .object []
      return .object (← members fuel)
    | some '[' =>
      let _ ← next
      space
      if ← skip "]" then return .array []
      return .array (← elements fuel)
    | _ => simple

/-- Read the elements of an array up to its closing bracket. -/
def elements : (fuel : Nat) → Text.Reader (List Json)
  | 0 => refuse
  | fuel + 1 => do
    let first ← value fuel
    if ← skip "," then return first :: (← elements fuel)
    expect "]"
    return [first]

/-- Read the members of an object up to its closing brace. -/
def members : (fuel : Nat) → Text.Reader (List (Option String × Json))
  | 0 => refuse
  | fuel + 1 => do
    space
    expect "\""
    let key ← stringBody
    space
    expect ":"
    let first ← value fuel
    if ← skip "," then return (key, first) :: (← members fuel)
    expect "\x7d"
    return [(key, first)]

end

def parse? (text : String) : Option Json :=
  readAll? (value (4 * text.length + 4)) text.toList

end CommandTree.Json
