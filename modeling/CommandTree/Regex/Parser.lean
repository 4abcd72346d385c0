import CommandTree.Regex.CharSet
import CommandTree.Regex.Match
import CommandTree.Text.Affix
import CommandTree.Text.Hex

/-!
# Reading regular expressions

The written form of regular expressions: literals, classes in brackets with set
operations, groups with names and flags, repetitions, anchors and word boundaries.  There
is no looking ahead or behind and no reference to earlier groups.  `parse?` reads a whole
expression; it refuses one that is ill formed, too deeply nested or too large.
-/

namespace CommandTree.Regex

open Text

/-- How literals, dots and anchors are read at some place of an expression. -/
structure Flags where
  /-- Case does not matter. -/
  caseless : Bool := false
  /-- `^` and `$` also stand for the ends of lines. -/
  lines : Bool := false
  /-- `.` also stands for a line end. -/
  dotAll : Bool := false
  /-- Classes are those of Unicode, not of ASCII. -/
  unicode : Bool := true
  /-- Blanks and comments between the parts are skipped. -/
  spaced : Bool := false
  /-- A carriage return ends a line too. -/
  crlf : Bool := false

/-- The state of reading. -/
structure Reader.State where
  /-- What is still to be read. -/
  rest : List Char
  /-- The flags in force. -/
  flags : Flags := {}
  /-- The names of groups so far. -/
  names : List (List Char) := []

/-- Reading a part of an expression, which may be refused. -/
abbrev Reader := StateT Reader.State Option

/-- A regular expression with its sets and tests. -/
abbrev Written := Expr CharSet PlaceTest

/-- A part of an expression, and how deeply its operators are nested. -/
structure Piece where
  /-- The part. -/
  expr : Written
  /-- The depth of nesting. -/
  depth : Nat := 0

def depthLimit : Nat := 250

/-- An expression may take this much to spell out. -/
def weightLimit : Nat := 327000

namespace Reader

def refuse {α : Type} : Reader α := fun _ => none

def rest : Reader (List Char) := return (← get).rest

def flags : Reader Flags := return (← get).flags

def goTo (rest : List Char) : Reader Unit := modify fun state => { state with rest }

/-- The next character, which is left to be read. -/
def peek? : Reader (Option Char) := return (← rest).head?

def next : Reader Char := do
  match ← rest with
  | [] => refuse
  | c :: more => goTo more; return c

def skip (text : String) : Reader Bool := do
  match after? text.toList (← rest) with
  | none => return false
  | some more => goTo more; return true

/-- A text without the blanks and comments it starts with.  A comment goes from a `#` to the
end of its line. -/
def dropSpace (inComment : Bool) : List Char → List Char
  | [] => []
  | c :: more =>
    if inComment then dropSpace (c != '\n') more
    else if c == '#' then dropSpace true more
    else if isBlank c then dropSpace false more
    else c :: more

/-- Skip blanks and comments where the flags ask for it. -/
def skipSpace : Reader Unit := do
  if (← flags).spaced then goTo (dropSpace false (← rest))

/-- Whether a character may stand in the name of a group. -/
def isNameChar (c : Char) (first : Bool) : Bool :=
  c == '_' || inSpans Property.alphabetic c
    || !first && (c == '.' || c == '[' || c == ']' || inSpans numberSpans c)

/-- Read the name of a group up to the `>` after it.  Names differ from each other. -/
def groupName : Reader Unit := do
  let text ← rest
  let name := text.takeWhile (· != '>')
  let more := text.drop name.length
  if more.isEmpty || name.isEmpty then refuse
  unless isNameChar (name.headD '>') true && name.tail.all (isNameChar · false) do refuse
  if (← get).names.contains name then refuse
  modify fun state => { state with rest := more.tail, names := name :: state.names }

/-- Switch the flag of a letter. -/
def setFlag? (flags : Flags) (letter : Char) (value : Bool) : Option Flags :=
  match letter with
  | 'i' => some { flags with caseless := value }
  | 'm' => some { flags with lines := value }
  | 's' => some { flags with dotAll := value }
  | 'u' => some { flags with unicode := value }
  | 'x' => some { flags with spaced := value }
  | 'R' => some { flags with crlf := value }
  | 'U' => some flags
  | _ => none

/-- Read flag letters, those after a `-` being switched off, up to the `:` or `)` after
them.  No letter and no `-` comes twice, and a `-` is followed by a letter. -/
def flagLetters (flags : Flags) (seen : List Char) : List Char → Reader (Flags × Char)
  | [] => refuse
  | c :: more =>
    if c == ':' || c == ')' then
      if seen.head? == some '-' || (c == ')' && seen.isEmpty) then refuse
      else do
        goTo more
        return (flags, c)
    else if seen.contains c then refuse
    else if c == '-' then flagLetters flags (c :: seen) more
    else
      match setFlag? flags c (!seen.contains '-') with
      | none => refuse
      | some flags => flagLetters flags (c :: seen) more

/-- The character with a given code point. -/
def charOfCode (code : Nat) : Reader Char :=
  if code.isValidChar then return Char.ofNat code else refuse

def fixedDigits : Nat → Reader (List Char)
  | 0 => return []
  | count + 1 => do
    skipSpace
    let c ← next
    return c :: (← fixedDigits count)

/-- The text up to a given character, which is read too. -/
def upTo (stop : Char) : Reader (List Char) := do
  let text ← rest
  let found := text.takeWhile (· != stop)
  let more := text.drop found.length
  if more.isEmpty then refuse
  goTo more.tail
  let spaced := (← flags).spaced
  return if spaced then found.filter (!isBlank ·) else found

/-- Read the code point of a character: a fixed number of digits, or any number of them in
braces. -/
def codePoint (count : Nat) : Reader Char := do
  skipSpace
  let braced ← skip "\x7b"
  let digits ← if braced then upTo '\x7d' else fixedDigits count
  if digits.isEmpty || !digits.all isHexDigit then refuse
  let code := hexNumber digits
  if !(← flags).unicode && !braced && count == 2 && 0x80 ≤ code then refuse
  charOfCode code

/-- The parts of a text around the first place where another text stands. -/
def splitAt? (mark : List Char) : List Char → Option (List Char × List Char)
  | [] => none
  | c :: more =>
    match after? mark (c :: more) with
    | some tail => some ([], tail)
    | none => (splitAt? mark more).map fun parts => (c :: parts.1, parts.2)

/-- Read the name of a Unicode property, by one letter or in braces. -/
def propertySet (negated : Bool) : Reader CharSet := do
  unless (← flags).unicode do refuse
  skipSpace
  let (set?, flipped) ← do
    if ← skip "\x7b" then
      let name ← upTo '\x7d'
      pure <| match splitAt? ['!', '='] name, splitAt? [':'] name, splitAt? ['='] name with
        | some (family, value), _, _ => (CharSet.valued? family value, true)
        | none, some (family, value), _ => (CharSet.valued? family value, false)
        | none, none, some (family, value) => (CharSet.valued? family value, false)
        | none, none, none => (CharSet.named? name, false)
    else
      let c ← next
      if c == '\\' then refuse
      pure (CharSet.named? [c], false)
  match set? with
  | none => refuse
  | some set =>
    let set := if (← flags).caseless then set.caseless else set
    return set.complIf (negated != flipped)

/-- What a character after a backslash, or on its own, stands for. -/
inductive Primitive where
  /-- A character. -/
  | literal (c : Char)
  /-- A set of characters. -/
  | set (set : CharSet)
  /-- A test of places. -/
  | place (test : PlaceTest)

/-- The short class of a letter: `d`, `s` or `w`, or the capital for all others. -/
def shortClass (letter : Char) : Reader CharSet := do
  let set := match letter.toLower with
    | 'd' => CharSet.digits
    | 's' => CharSet.blanks
    | _ => CharSet.words
  let negated := letter.isUpper
  if (← flags).unicode then return set.complIf negated
  if negated then refuse
  return set.ascii

/-- Whether a neighbour is part of a word. -/
def isWordAt (unicode : Bool) : Option Char → Bool
  | none => false
  | some c => if unicode then isWordChar c else c.isAlphanum || c == '_'

def wordBoundary (unicode : Bool) : PlaceTest := fun before after =>
  isWordAt unicode before != isWordAt unicode after

/-- The test that a name in braces after `\b` stands for. -/
def boundary? (unicode : Bool) (name : String) : Option PlaceTest :=
  match name with
  | "start" => some fun before after => !isWordAt unicode before && isWordAt unicode after
  | "end" => some fun before after => isWordAt unicode before && !isWordAt unicode after
  | "start-half" => some fun before _ => !isWordAt unicode before
  | "end-half" => some fun _ after => !isWordAt unicode after
  | _ => none

/-- Read what may follow `\b`: a name in braces.  Braces that hold something else are left
to be read as a repetition. -/
def boundary : Reader PlaceTest := do
  let unicode := (← flags).unicode
  let saved ← rest
  if ← skip "\x7b" then
    skipSpace
    match ← peek? with
    | none => refuse
    | some c =>
      if c.isAlpha || c == '-' then
        match boundary? unicode (String.ofList (← upTo '\x7d')) with
        | some test => return test
        | none => refuse
      else
        goTo saved
        return wordBoundary unicode
  else return wordBoundary unicode

/-- Characters that have a meaning of their own in expressions. -/
def isMeta (c : Char) : Bool :=
  "\\.+*?()|[]\x7b\x7d^$#&-~".toList.contains c

/-- Whether a backslash before a character makes no difference but to take its meaning. -/
def isEscapable (c : Char) : Bool :=
  isMeta c || (c.toNat < 0x80 && !c.isAlphanum && c != '<' && c != '>')

def atStart : PlaceTest := fun before _ => before.isNone

def atEnd : PlaceTest := fun _ after => after.isNone

def escape : Reader Primitive := do
  let c ← next
  let unicode := (← flags).unicode
  match c with
  | 'x' => return .literal (← codePoint 2)
  | 'u' => return .literal (← codePoint 4)
  | 'U' => return .literal (← codePoint 8)
  | 'p' => return .set (← propertySet false)
  | 'P' => return .set (← propertySet true)
  | 'd' | 's' | 'w' | 'D' | 'S' | 'W' => return .set (← shortClass c)
  | 'a' => return .literal '\x07'
  | 'f' => return .literal '\x0C'
  | 't' => return .literal '\t'
  | 'n' => return .literal '\n'
  | 'r' => return .literal '\r'
  | 'v' => return .literal '\x0B'
  | 'A' => return .place atStart
  | 'z' => return .place atEnd
  | 'b' => return .place (← boundary)
  | 'B' => return .place fun before after => !wordBoundary unicode before after
  | '<' => return .place fun before after => !isWordAt unicode before && isWordAt unicode after
  | '>' => return .place fun before after => isWordAt unicode before && !isWordAt unicode after
  | _ => if isEscapable c then return .literal c else refuse

/-- A set with the variants of its members in the other case, if the flags ask for it. -/
def folded (set : CharSet) : Reader CharSet := do
  let flags ← flags
  return if !flags.caseless then set
    else if flags.unicode then set.caseless
    else ⟨fun c => set.contains c.toLower || set.contains c.toUpper, 2 * set.weight⟩

/-- An operation on two sets in brackets. -/
inductive SetOperator where
  /-- The common members. -/
  | inter
  /-- The members of the first set only. -/
  | diff
  /-- The members of exactly one of the sets. -/
  | symmDiff

/-- Apply an operation that waits for its second operand. -/
def operate (pending : Option (SetOperator × CharSet)) (operand : CharSet) : Reader CharSet :=
  match pending with
  | none => return operand
  | some (operator, first) => do
    let first ← folded first
    let second ← folded operand
    return match operator with
      | .inter => first.inter second
      | .diff => first.diff second
      | .symmDiff => first.symmDiff second

/-- Read a class of ASCII characters such as `[:alpha:]`; anything else is left. -/
def asciiClass? : Reader (Option CharSet) := do
  let saved ← rest
  if ← skip "[:" then
    let negated ← skip "^"
    let text ← rest
    let name := text.takeWhile (· != ':')
    goTo (text.drop name.length)
    if ← skip ":]" then
      match CharSet.asciiClass? (String.ofList name) with
      | some set =>
        if negated && !(← flags).unicode then refuse
        return some (set.complIf negated)
      | none => goTo saved; return none
    else goTo saved; return none
  else return none

def setItem : Reader Primitive := do
  let c ← next
  if c == '\\' then escape
  else
    if !(← flags).unicode && 0x80 ≤ c.toNat then refuse
    return .literal c

/-- Read a character, a range of characters or a short class in brackets. -/
def setRange : Reader CharSet := do
  let first ← setItem
  skipSpace
  let spaced := (← flags).spaced
  let isRange ← match ← rest with
    | [] => refuse
    | '-' :: more =>
      let follows := if spaced then dropSpace false more else more
      pure (follows.head? != some ']' && follows.head? != some '-')
    | _ => pure false
  if isRange then
    let _ ← next
    skipSpace
    match first, ← setItem with
    | .literal first, .literal last =>
      if first ≤ last then return .range first last else refuse
    | _, _ => refuse
  else
    match first with
    | .literal c => return .single c
    | .set set => return set
    | .place _ => refuse

def leadingHyphens (fuel : Nat) (found : CharSet) (any : Bool) : Reader (CharSet × Bool) := do
  match fuel, ← peek? with
  | fuel + 1, some '-' =>
    let _ ← next
    skipSpace
    leadingHyphens fuel (found.union (.single '-')) true
  | _, _ => return (found, any)

mutual

/-- Read a set in brackets after its opening bracket. -/
def bracketed : (fuel : Nat) → Reader (CharSet × Nat)
  | 0 => refuse
  | fuel + 1 => do
    skipSpace
    let negated ← skip "^"
    skipSpace
    let (found, any) ← leadingHyphens fuel .none false
    let found ←
      if ← pure !any <&&> skip "]" then
        skipSpace
        pure (CharSet.single ']')
      else pure found
    let (set, depth) ← setItems fuel none found 0
    if negated && !(← flags).unicode then refuse
    return ((← folded set).complIf negated, depth + 1)

/-- Read the items of a set up to its closing bracket, where `found` unites the items of the
current operand. -/
def setItems (fuel : Nat) (pending : Option (SetOperator × CharSet)) (found : CharSet)
    (depth : Nat) : Reader (CharSet × Nat) :=
  match fuel with
  | 0 => refuse
  | fuel + 1 => do
    skipSpace
    match ← rest with
    | [] => refuse
    | '[' :: more =>
      match ← asciiClass? with
      | some set => setItems fuel pending (found.union set) depth
      | none =>
        goTo more
        let (set, inner) ← bracketed fuel
        setItems fuel pending (found.union set) (max depth inner)
    | ']' :: more =>
      goTo more
      return (← operate pending found, depth)
    | '&' :: '&' :: more =>
      goTo more
      setItems fuel (some (.inter, ← operate pending found)) .none (depth + 1)
    | '-' :: '-' :: more =>
      goTo more
      setItems fuel (some (.diff, ← operate pending found)) .none (depth + 1)
    | '~' :: '~' :: more =>
      goTo more
      setItems fuel (some (.symmDiff, ← operate pending found)) .none (depth + 1)
    | _ => setItems fuel pending (found.union (← setRange)) depth

end

/-- Read a decimal number with any blanks around it. -/
def decimal : Reader Nat := do
  goTo (dropBlanks (← rest))
  let spaced := (← flags).spaced
  let text ← rest
  let digits := text.takeWhile fun c => c.isDigit || (spaced && isBlank c)
  goTo (dropBlanks (text.drop digits.length))
  let digits := digits.filter Char.isDigit
  if digits.isEmpty then refuse
  let number := Nat.ofDigitChars 10 digits 0
  if number < Nat.pow 2 32 then return number else refuse

/-- Read the bounds of a repetition after the opening brace. -/
def bounds : Reader (Nat × Option Nat) := do
  skipSpace
  let least ← decimal
  let most ←
    if ← skip "," then
      skipSpace
      match ← peek? with
      | some '\x7d' => pure none
      | _ => pure (some (← decimal))
    else pure (some least)
  unless ← skip "\x7d" do refuse
  match most with
  | some most => if most < least then refuse
  | none => pure ()
  return (least, most)

/-- The set a dot stands for. -/
def dot : Reader CharSet := do
  let flags ← flags
  if !flags.unicode then refuse
  return if flags.dotAll then .all
    else if flags.crlf then ⟨fun c => c != '\n' && c != '\r', 10⟩
    else ⟨fun c => c != '\n', 10⟩

def lineStart (flags : Flags) : PlaceTest := fun before after =>
  match before with
  | none => true
  | some b =>
    flags.lines && (b == '\n' || (flags.crlf && b == '\r' && after != some '\n'))

def lineEnd (flags : Flags) : PlaceTest := fun before after =>
  match after with
  | none => true
  | some a =>
    flags.lines
      && if flags.crlf then a == '\r' || (a == '\n' && before != some '\r') else a == '\n'

/-- The expression of a primitive. -/
def Primitive.toPiece : Primitive → Reader Piece
  | .literal c => return { expr := .char (← folded (.single c)) }
  | .set s => return { expr := .char s }
  | .place t => return { expr := .place t }

def primitive : Reader Piece := do
  let flags ← flags
  match ← next with
  | '\\' => (← escape).toPiece
  | '.' => return { expr := .char (← dot) }
  | '^' => return { expr := .place (lineStart flags) }
  | '$' => return { expr := .place (lineEnd flags) }
  | c => (Primitive.literal c).toPiece

/-- The parts read so far in a group, the latest first; a part that only sets flags is
missing. -/
abbrev Parts := List (Option Piece)

/-- The parts of one alternative as one. -/
def joinParts (parts : Parts) : Piece :=
  match parts with
  | [] => { expr := .empty }
  | [part] => part.getD { expr := .empty }
  | parts =>
    let pieces := parts.reverse.filterMap id
    { expr := .sequence (pieces.map Piece.expr),
      depth := (pieces.map Piece.depth).foldl max 0 + 1 }

/-- The alternatives of a group, the latest first, as one. -/
def joinAlternatives (alternatives : List Piece) : Piece :=
  match alternatives with
  | [one] => one
  | _ =>
    { expr := .choice (alternatives.reverse.map Piece.expr),
      depth := (alternatives.map Piece.depth).foldl max 0 + 1 }

/-- Let the latest part be repeated.  Flags and the start of a group cannot be. -/
def repeatLast (parts : Parts) (least : Nat) (most : Option Nat) : Reader Parts := do
  let _ ← skip "?"
  match parts with
  | some piece :: earlier =>
    return some { expr := .repeated piece.expr least most, depth := piece.depth + 1 } :: earlier
  | _ => refuse

/-- The start of a group. -/
inductive GroupStart where
  /-- The flags for the rest of the surrounding group, and no group. -/
  | flagsOnly (flags : Flags)
  /-- A group that is read with the given flags. -/
  | group (flags : Flags)

/-- Read what follows an opening parenthesis before the contents of the group. -/
def groupStart : Reader GroupStart := do
  skipSpace
  for ahead in ["?=", "?!", "?<=", "?<!"] do
    if ← skip ahead then refuse
  let flags ← flags
  if ← skip "?P<" <||> skip "?<" then
    groupName
    return .group flags
  else if ← skip "?" then
    let (flags, stop) ← flagLetters flags [] (← rest)
    return if stop == ')' then .flagsOnly flags else .group flags
  else return .group flags

/-- Read the parts of a group up to its end: a closing parenthesis, or the end of the whole
expression for the outermost group. -/
def group (fuel : Nat) (outermost : Bool) (parts : Parts) (alternatives : List Piece) :
    Reader Piece :=
  match fuel with
  | 0 => refuse
  | fuel + 1 => do
    skipSpace
    match ← rest with
    | [] => if outermost then return joinAlternatives (joinParts parts :: alternatives) else refuse
    | '(' :: more =>
      goTo more
      let outer ← flags
      match ← groupStart with
      | .flagsOnly flags =>
        modify fun state => { state with flags }
        group fuel outermost (none :: parts) alternatives
      | .group inner =>
        modify fun state => { state with flags := inner }
        let piece ← group fuel false [] []
        modify fun state => { state with flags := outer }
        group fuel outermost (some { piece with depth := piece.depth + 1 } :: parts) alternatives
    | ')' :: more =>
      if outermost then refuse
      else
        goTo more
        return joinAlternatives (joinParts parts :: alternatives)
    | '|' :: more =>
      goTo more
      group fuel outermost [] (joinParts parts :: alternatives)
    | '[' :: more =>
      goTo more
      let (set, depth) ← bracketed (2 * (more.length + 1))
      group fuel outermost (some { expr := .char set, depth } :: parts) alternatives
    | '?' :: more =>
      goTo more
      group fuel outermost (← repeatLast parts 0 (some 1)) alternatives
    | '*' :: more =>
      goTo more
      group fuel outermost (← repeatLast parts 0 none) alternatives
    | '+' :: more =>
      goTo more
      group fuel outermost (← repeatLast parts 1 none) alternatives
    | '\x7b' :: more =>
      goTo more
      let (least, most) ← bounds
      group fuel outermost (← repeatLast parts least most) alternatives
    | _ => group fuel outermost (some (← primitive) :: parts) alternatives

end Reader

def parse? (text : List Char) : Option Written := do
  let (piece, _) ← (Reader.group (text.length + 1) true [] []).run { rest := text }
  if piece.depth ≤ depthLimit && piece.expr.weight CharSet.weight ≤ weightLimit then
    return piece.expr
  else none

end CommandTree.Regex
