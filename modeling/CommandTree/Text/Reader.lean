import CommandTree.Text.Affix

/-!
# Reading texts

The steps from which readers of written documents are put together.  A reader takes
characters off the front of a text, or refuses the text.
-/

namespace CommandTree.Text

/-- Takes characters off the front of a text, or refuses the text. -/
abbrev Reader := StateT (List Char) Option

namespace Reader

variable {α : Type}

def refuse : Reader α := fun _ => none

def rest : Reader (List Char) := get

/-- The next character, which is left to be read. -/
def peek? : Reader (Option Char) := return (← rest).head?

def next : Reader Char := do
  match ← rest with
  | [] => refuse
  | c :: more => StateT.set more; return c

def skip (text : String) : Reader Bool := do
  match after? text.toList (← rest) with
  | none => return false
  | some more => StateT.set more; return true

def expect (text : String) : Reader Unit := do
  unless ← skip text do refuse

/-- Read the characters up to the first that fails a test. -/
def takeWhile (test : Char → Bool) : Reader (List Char) := do
  let text ← rest
  StateT.set (text.dropWhile test)
  return text.takeWhile test

/-- Skip the characters up to the first that fails a test. -/
def dropWhile (test : Char → Bool) : Reader Unit := do
  let _ ← takeWhile test

/-- Read one or more characters that pass a test. -/
def takeSome (test : Char → Bool) : Reader (List Char) := do
  let found ← takeWhile test
  if found.isEmpty then refuse else return found

/-- Read the given number of characters, all of which pass a test. -/
def takeExactly (test : Char → Bool) : Nat → Reader (List Char)
  | 0 => return []
  | count + 1 => do
    let c ← next
    unless test c do refuse
    return c :: (← takeExactly test count)

/-- The value that a reader finds in a text, all of which it has to take. -/
def readAll? (reader : Reader α) (text : List Char) : Option α :=
  match reader.run text with
  | some (value, []) => some value
  | _ => none

end Reader

end CommandTree.Text
