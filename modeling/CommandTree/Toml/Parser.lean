import CommandTree.Text.Blank
import CommandTree.Text.Hex
import CommandTree.Text.Reader
import CommandTree.Toml.Table

/-!
# Reading TOML

The grammar of TOML: a document is a list of statements, one a line.  Values that are not
texts, lists or tables are checked but not kept.
-/

namespace CommandTree.Toml

open Text Text.Reader

/-- A line of a document that is not blank. -/
inductive Statement where
  /-- A value for the last of the keys with dots between them. -/
  | assign (path : List String) (key : String) (item : Item)
  /-- The header of a table. -/
  | table (path : List String) (key : String)
  /-- The header of an element of a list of tables. -/
  | element (path : List String) (key : String)

/-- Values may be nested less deeply than this, and paths have fewer keys. -/
def depthLimit : Nat := 80

def isSpace (c : Char) : Bool := c == ' ' || c == '\t'

/-- Whether a character may stand in a comment or a text of one line. -/
def isPlain (c : Char) : Bool := c == '\t' || (0x20 ≤ c.toNat && c.toNat != 0x7F)

def spaces : Text.Reader Unit := Text.Reader.dropWhile isSpace

def newline? : Text.Reader Bool := do
  if ← skip "\n" then return true
  skip "\r\n"

def comment : Text.Reader Unit := do
  if ← skip "#" then Text.Reader.dropWhile isPlain

def trivia : (fuel : Nat) → Text.Reader Unit
  | 0 => return ()
  | fuel + 1 => do
    spaces
    comment
    if ← newline? then trivia fuel

/-- Read a character given by its code in hexadecimal digits. -/
def codePoint (count : Nat) : Text.Reader Char := do
  let code := hexNumber (← takeExactly isHexDigit count)
  if code.isValidChar then return Char.ofNat code else refuse

def escape : Text.Reader Char := do
  match ← next with
  | 'b' => return '\x08'
  | 't' => return '\t'
  | 'n' => return '\n'
  | 'f' => return '\x0C'
  | 'r' => return '\r'
  | '"' => return '"'
  | '\\' => return '\\'
  | 'u' => codePoint 4
  | 'U' => codePoint 8
  | _ => refuse

/-- Read a text of one line with escapes after its opening quote. -/
def basicText : (fuel : Nat) → Text.Reader (List Char)
  | 0 => refuse
  | fuel + 1 => do
    match ← next with
    | '"' => return []
    | '\\' =>
      let c ← escape
      return c :: (← basicText fuel)
    | c =>
      unless isPlain c do refuse
      return c :: (← basicText fuel)

/-- Read a text of one line without escapes after its opening quote. -/
def literalText : Text.Reader (List Char) := do
  let found ← takeWhile fun c => isPlain c && c != '\''
  expect "'"
  return found

/-- Read the quotes at the end of a text of several lines, up to two of which belong to the
text, after the first three. -/
def closingQuotes (quote : Char) : Text.Reader (List Char) := do
  let mark := String.singleton quote
  if ← skip mark then
    if ← skip mark then return [quote, quote]
    return [quote]
  return []

/-- Skip spaces and line ends after a backslash at the end of a line. -/
def lineJoin : (fuel : Nat) → Text.Reader Unit
  | 0 => return ()
  | fuel + 1 => do
    spaces
    if ← newline? then lineJoin fuel

/-- Read a text of several lines with escapes after its opening quotes. -/
def longBasicText : (fuel : Nat) → Text.Reader (List Char)
  | 0 => refuse
  | fuel + 1 => do
    if ← skip "\"\"\"" then closingQuotes '"'
    else if ← newline? then return '\n' :: (← longBasicText fuel)
    else
      match ← next with
      | '\\' =>
        let saved ← rest
        spaces
        if ← newline? then
          lineJoin fuel
          longBasicText fuel
        else
          StateT.set saved
          let c ← escape
          return c :: (← longBasicText fuel)
      | c =>
        unless isPlain c do refuse
        return c :: (← longBasicText fuel)

/-- Read a text of several lines without escapes after its opening quotes. -/
def longLiteralText : (fuel : Nat) → Text.Reader (List Char)
  | 0 => refuse
  | fuel + 1 => do
    if ← skip "'''" then closingQuotes '\''
    else if ← newline? then return '\n' :: (← longLiteralText fuel)
    else
      let c ← next
      unless isPlain c do refuse
      return c :: (← longLiteralText fuel)

def text? : Text.Reader (Option String) := do
  let fuel := (← rest).length + 1
  if ← skip "\"\"\"" then
    let _ ← newline?
    return some (String.ofList (← longBasicText fuel))
  if ← skip "'''" then
    let _ ← newline?
    return some (String.ofList (← longLiteralText fuel))
  if ← skip "\"" then return some (String.ofList (← basicText fuel))
  if ← skip "'" then return some (String.ofList (← literalText))
  return none

/-- Whether a character may stand in a key without quotes. -/
def isKeyChar (c : Char) : Bool := c.isAlphanum || c == '_' || c == '-'

def simpleKey : Text.Reader String := do
  let fuel := (← rest).length + 1
  if ← skip "\"" then return String.ofList (← basicText fuel)
  if ← skip "'" then return String.ofList (← literalText)
  return String.ofList (← takeSome isKeyChar)

/-- Read keys with dots between them and the spaces around each. -/
def keyPath : (fuel : Nat) → Text.Reader (List String)
  | 0 => refuse
  | fuel + 1 => do
    spaces
    let key ← simpleKey
    spaces
    if ← skip "." then return key :: (← keyPath fuel)
    return [key]

/-- Read keys with dots between them; the last one is told from those before it. -/
def dottedKey : Text.Reader (List String × String) := do
  match (← keyPath depthLimit).reverse with
  | [] => refuse
  | last :: earlier => return (earlier.reverse, last)

/-- Read digits with single underscores between them. -/
def digitGroups (isDigit : Char → Bool) (fuel : Nat) : Text.Reader (List Char) := do
  let group ← takeSome isDigit
  match fuel with
  | 0 => refuse
  | fuel + 1 =>
    if ← skip "_" then return group ++ (← digitGroups isDigit fuel)
    return group

/-- Whether a decimal number is too large for a binary fraction of 64 bits: it rounds to
`2 ^ 1024`. -/
def overflows (digits : List Char) (exponent : Int) : Bool :=
  let digits := digits.dropWhile (· == '0')
  if digits.isEmpty then false
  else
    let magnitude := (digits.length : Int) + exponent
    if magnitude > 310 then true
    else if magnitude < 300 then false
    else
      let number := Nat.ofDigitChars 10 digits 0
      let limit := (Nat.pow 2 54 - 1) * Nat.pow 2 970
      if exponent < 0 then decide (limit * Nat.pow 10 exponent.natAbs ≤ number)
      else decide (limit ≤ number * Nat.pow 10 exponent.natAbs)

/-- Read a decimal number after its sign: a whole number that fits into 64 bits, or one with a
point or an exponent that is not too large. -/
def decimal (negative : Bool) : Text.Reader Unit := do
  let fuel := (← rest).length + 1
  let whole ← digitGroups Char.isDigit fuel
  if whole.head? == some '0' && whole.length > 1 then refuse
  let isPointed ← skip "."
  let places ← if isPointed then digitGroups Char.isDigit fuel else pure []
  let isScaled ← do
    if ← skip "e" then pure true else skip "E"
  let exponent ←
    if isScaled then
      let isDown ← skip "-"
      unless isDown do
        let _ ← skip "+"
      let number := Nat.ofDigitChars 10 (← digitGroups Char.isDigit fuel) 0
      pure (if isDown then -(number : Int) else number)
    else pure 0
  if isPointed || isScaled then
    if !negative && overflows (whole ++ places) (exponent - places.length) then refuse
  else
    let number := Nat.ofDigitChars 10 whole 0
    if number < Nat.pow 2 63 || (negative && number == Nat.pow 2 63) then return ()
    else refuse

/-- Read the digits of a whole number in another base. -/
def based (isDigit : Char → Bool) (base : Nat) : Text.Reader Unit := do
  let digits ← digitGroups isDigit ((← rest).length + 1)
  if numberInBase base digits < Nat.pow 2 63 then return () else refuse

def number : Text.Reader Unit := do
  if ← skip "0x" then based isHexDigit 16
  else if ← skip "0o" then based (fun c => '0' ≤ c && c ≤ '7') 8
  else if ← skip "0b" then based (fun c => c == '0' || c == '1') 2
  else
    let negative ← skip "-"
    unless negative do
      let _ ← skip "+"
    if ← skip "inf" then return ()
    if ← skip "nan" then return ()
    decimal negative

/-- Read a number of exactly the given count of digits, within bounds. -/
def field (count least most : Nat) : Text.Reader Nat := do
  let value := Nat.ofDigitChars 10 (← takeExactly Char.isDigit count) 0
  if least ≤ value && value ≤ most then return value else refuse

/-- How many days a month has. -/
def daysOf (year month : Nat) : Nat :=
  if month == 2 then
    if year % 4 == 0 && (year % 100 != 0 || year % 400 == 0) then 29 else 28
  else if month == 4 || month == 6 || month == 9 || month == 11 then 30
  else 31

def date : Text.Reader Unit := do
  let year ← field 4 0 9999
  expect "-"
  let month ← field 2 1 12
  expect "-"
  let _ ← field 2 1 (daysOf year month)

def time : Text.Reader Unit := do
  let _ ← field 2 0 23
  expect ":"
  let _ ← field 2 0 59
  expect ":"
  let _ ← field 2 0 60
  if ← skip "." then
    let _ ← takeSome Char.isDigit

/-- Read the distance of a time from universal time, if it is given. -/
def offset : Text.Reader Unit := do
  if ← skip "Z" <||> skip "z" then return ()
  if ← skip "+" <||> skip "-" then
    let _ ← field 2 0 23
    expect ":"
    let _ ← field 2 0 59

/-- Whether a text starts like a date or a time of day. -/
def startsLikeTime (text : List Char) : Bool :=
  let digits := text.takeWhile Char.isDigit
  let follows := (text.drop digits.length).head?
  (digits.length == 4 && follows == some '-') || (digits.length == 2 && follows == some ':')

def moment : Text.Reader Unit := do
  if ((← rest).takeWhile Char.isDigit).length == 2 then time
  else
    date
    let follows := (← rest).drop 1
    let hasTime := (follows.takeWhile Char.isDigit).length == 2
      && (follows.drop 2).head? == some ':'
    match ← peek? with
    | some c =>
      if (c == 'T' || c == 't' || c == ' ') && hasTime then
        let _ ← next
        time
        offset
    | none => return ()

mutual

def value : (fuel : Nat) → (depth : Nat) → Text.Reader Item
  | 0, _ => refuse
  | fuel + 1, depth => do
    if let some found ← text? then return .text found
    if ← skip "[" then
      if depth + 1 < depthLimit then
        return .array (← elements fuel (depth + 1))
      else refuse
    if ← skip "\x7b" then
      if depth + 1 < depthLimit then
        spaces
        let pairs ← if ← skip "\x7d" then pure [] else pairs fuel (depth + 1)
        match inlineTable pairs with
        | some table => return table
        | none => refuse
      else refuse
    if ← skip "true" then return .scalar
    if ← skip "false" then return .scalar
    if startsLikeTime (← rest) then moment else number
    return .scalar

/-- Read the elements of a list up to its closing bracket. -/
def elements : (fuel : Nat) → (depth : Nat) → Text.Reader (List Item)
  | 0, _ => refuse
  | fuel + 1, depth => do
    trivia ((← rest).length + 1)
    if ← skip "]" then return []
    let first ← value fuel depth
    trivia ((← rest).length + 1)
    if ← skip "," then return first :: (← elements fuel depth)
    expect "]"
    return [first]

/-- Read the key-value pairs of a table in braces up to its closing brace. -/
def pairs : (fuel : Nat) → (depth : Nat) → Text.Reader (List (List String × String × Item))
  | 0, _ => refuse
  | fuel + 1, depth => do
    let (path, key) ← dottedKey
    expect "="
    spaces
    let item ← value fuel depth
    spaces
    if ← skip "," then return (path, key, item) :: (← pairs fuel depth)
    expect "\x7d"
    return [(path, key, item)]

end

def statement (fuel : Nat) : Text.Reader Statement := do
  if ← skip "[[" then
    let (path, key) ← dottedKey
    expect "]]"
    return .element path key
  if ← skip "[" then
    let (path, key) ← dottedKey
    expect "]"
    return .table path key
  let (path, key) ← dottedKey
  expect "="
  spaces
  return .assign path key (← value fuel 0)

def statements : (fuel : Nat) → Text.Reader (List Statement)
  | 0 => refuse
  | fuel + 1 => do
    spaces
    comment
    if ← newline? then statements fuel
    else if (← rest).isEmpty then return []
    else
      let first ← statement (2 * (← rest).length + 2)
      spaces
      comment
      if ← newline? then return first :: (← statements fuel)
      else if (← rest).isEmpty then return [first]
      else refuse

/-- A text without the mark that may stand at its start. -/
def withoutMark : List Char → List Char
  | c :: rest => if c.toNat = 0xFEFF then rest else c :: rest
  | [] => []

/-- Carry out statements one after the other, where `current` is the path to the table that
assignments go to. -/
def build (entries : Entries) (current : List String) : List Statement → Option Entries
  | [] => some entries
  | .assign path key item :: later => do
    let entries ← descend entries current (assign · path key item)
    build entries current later
  | .table path key :: later => do
    let entries ← descend entries path (openTable key)
    build entries (path ++ [key]) later
  | .element path key :: later => do
    let entries ← descend entries path (openElement key)
    build entries (path ++ [key]) later

/-- The contents of a document. -/
def parse? (text : String) : Option Entries := do
  let chars := withoutMark text.toList
  build [] [] (← readAll? (statements (chars.length + 1)) chars)

end CommandTree.Toml
