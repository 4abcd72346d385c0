import CommandTree.Argument.Reading
import CommandTree.Regex

/-!
# Text arguments

A text argument is a word, or a text between double quotes.  A type of texts can restrict
the values by a rule and bound their lengths, which are counted in characters.
-/

namespace CommandTree

open Text

/-- A piece of a line that stands for a text. -/
structure Token where
  value : List Char
  /-- The characters of the line it takes up. -/
  taken : List Char
  rest : List Char
deriving DecidableEq, Repr

namespace Token

/-- The token of the word at the start of a text. -/
def bare (text : List Char) : Token :=
  { value := leadingWord text, taken := leadingWord text, rest := afterWord text }

/-- The token at the start of a text.  A double quote starts a text that goes on to the next
one; where there is no other, it is a character of a word. -/
def scan? : List Char → Option Token
  | [] => none
  | c :: text =>
    if c = '"' ∧ '"' ∈ text then
      let value := text.takeWhile (· != '"')
      some
        { value
          taken := '"' :: value ++ ['"']
          rest := (text.dropWhile (· != '"')).tail }
    else some (bare (c :: text))

/-- A token and what follows it make up the text. -/
theorem taken_append_rest_of_scan? {text : List Char} {token : Token}
    (h : scan? text = some token) : token.taken ++ token.rest = text := by
  cases text with
  | nil => simp [scan?] at h
  | cons c text =>
    rw [scan?] at h
    split at h
    · next hquote =>
      obtain ⟨rfl, hmem⟩ := hquote
      obtain rfl := by simpa using h
      have hsplit := List.takeWhile_append_dropWhile (p := (· != '"')) (l := text)
      have hhead : ∃ rest, text.dropWhile (· != '"') = '"' :: rest := by
        clear h hsplit
        induction text with
        | nil => simp at hmem
        | cons d text ih =>
          by_cases hd : d = '"'
          · exact ⟨text, by simp [hd]⟩
          · have hmem : '"' ∈ text := by simpa [Ne.symm hd] using hmem
            obtain ⟨rest, hrest⟩ := ih hmem
            exact ⟨rest, by simpa [hd] using hrest⟩
      obtain ⟨rest, hrest⟩ := hhead
      rw [hrest] at hsplit
      simpa [hrest] using hsplit
    · obtain rfl := by simpa using h
      exact leadingWord_append_afterWord _

end Token

/-- A rule on the values of a text argument. -/
inductive Rule where
  | pattern (regex : Regex)
  | list (values : List String)
  | predicate (accepts : String → Bool)
  | commands

namespace Rule

/-- The reason to refuse a value, where `commands` are the registered commands. -/
def check (commands : List String) : Rule → String → Option Diagnostic
  | pattern regex, value =>
    if regex.accepts value then none else some (.patternMismatch regex.source)
  | list values, value => if value ∈ values then none else some (.outside values)
  | predicate accepts, value => if accepts value then none else some .rejectedByPredicate
  | Rule.commands, value => if value ∈ commands then none else some (.outside commands)

def describe : Rule → String
  | pattern regex => "Pattern(" ++ quoted regex.source ++ ")"
  | list values => "List([" ++ ", ".intercalate (values.map quoted) ++ "])"
  | predicate _ => "Predicate(..)"
  | commands => "Commands"

end Rule

structure TextType where
  rule : Option Rule := none
  minLength : Nat := 0
  maxLength : Option Nat := none

namespace TextType

/-- The reason to refuse a value for its length. -/
def checkLength (type : TextType) (length : Nat) : Option Diagnostic :=
  if length < type.minLength then some (.tooShort type.minLength)
  else (type.maxLength.filter (· < length)).map .tooLong

/-- The reason to refuse a value: the rule comes first, then the least and then the greatest
length. -/
def check (type : TextType) (commands : List String) (value : String) : Option Diagnostic :=
  (type.rule.bind (·.check commands value)).or (type.checkLength value.length)

def read (type : TextType) (commands : List String) (context : Context) : Reading :=
  match Token.scan? (dropBlanks context.cursor.ahead) with
  | none => .refused context []
  | some token =>
    let value := String.ofList token.value
    match type.check commands value with
    | some diagnostic => .refused context [diagnostic]
    | none =>
      .accepted context (.text value)
        (context.cursor.advance (leadingBlanks context.cursor.ahead ++ token.taken) token.rest)

inductive Setting where
  | rule (rule : Rule)
  | minLength (length : Nat)
  | maxLength (length : Nat)

def set (type : TextType) : Setting → TextType
  | .rule rule => { type with rule := some rule }
  | .minLength length => { type with minLength := length }
  | .maxLength length => { type with maxLength := some length }

/-- The type without restrictions, changed by settings one after the other. -/
def ofSettings (settings : List Setting) : TextType := settings.foldl set {}

def describe (type : TextType) : String :=
  let rule := match type.rule with
    | none => "None"
    | some rule => "Some(" ++ rule.describe ++ ")"
  let most := match type.maxLength with
    | none => "None"
    | some length => "Some(" ++ length.repr ++ ")"
  "StringArgumentType \x7b allows: " ++ rule ++ ", min_length: " ++ type.minLength.repr
    ++ ", max_length: " ++ most ++ " \x7d"

end TextType

end CommandTree
