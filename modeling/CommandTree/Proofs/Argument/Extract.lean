import CommandTree.Proofs.Argument.Admission
import CommandTree.Proofs.Text.Offset
import CommandTree.Proofs.Text.Tail

/-!
# What argument types make of a text

A type of numbers or of texts first skips the blanks ahead, and what it then does is settled
by the text that follows them: it is refused for a reason or taken for a value, which makes
up the beginning of the text (`IsStandard.read_eq`).  Neither the blanks nor what is behind
the cursor play a part in that, and blanks at the end of the text are left over
(`IsStandard.extract_append_tail`).
-/

namespace CommandTree

open Text

/-- A value at the beginning of a text. -/
structure Extract where
  value : Value
  /-- The characters of the text that stand for the value. -/
  taken : List Char
  rest : List Char

/-- The same value in a text with more at its end. -/
def Extract.extend (tail : List Char) (extract : Extract) : Extract :=
  { extract with rest := extract.rest ++ tail }

/-- The reading of a text that comes after the blanks ahead. -/
def Reading.ofExtract (context : Context) : Except (List Diagnostic) Extract → Reading
  | .error reports => .refused context reports
  | .ok extract =>
    .accepted context extract.value
      (context.cursor.advance (leadingBlanks context.cursor.ahead ++ extract.taken) extract.rest)

namespace IntegerType

/-- What the type makes of a text that begins with no blank. -/
def extract (type : IntegerType) (text : List Char) : Except (List Diagnostic) Extract :=
  let digits := leadingDigits text
  let number := numberOf digits
  if digits.isEmpty || largest < number then .error []
  else
    match type.check number with
    | some diagnostic => .error [diagnostic]
    | none => .ok { value := .integer number, taken := digits, rest := afterDigits text }

theorem read_eq (type : IntegerType) (context : Context) :
    type.read context = .ofExtract context (type.extract (dropBlanks context.cursor.ahead)) := by
  let digits := leadingDigits (dropBlanks context.cursor.ahead)
  by_cases hunreadable : (digits.isEmpty || largest < numberOf digits) = true
  · simp only [read, extract, digits, hunreadable, if_true]
    rfl
  · simp only [read, extract, digits, hunreadable]
    cases type.check (numberOf digits) <;> rfl

theorem isDigit_eq_false_of_isBlank {c : Char} (hblank : isBlank c = true) :
    c.isDigit = false := by
  rw [Bool.eq_false_iff, ne_eq, isDigit_iff]
  simp only [isBlank, blankRanges, List.any_cons, List.any_nil, Bool.or_false, Bool.or_eq_true,
    Bool.and_eq_true, decide_eq_true_eq] at hblank
  omega

theorem extract_append_tail {tail : List Char} (htail : ∀ c ∈ tail, isBlank c = true)
    (type : IntegerType) (text : List Char) :
    type.extract (text ++ tail) = (type.extract text).map (Extract.extend tail) := by
  obtain ⟨hdigits, hafter⟩ : leadingDigits (text ++ tail) = leadingDigits text ∧
      afterDigits (text ++ tail) = afterDigits text ++ tail :=
    takeWhile_append_tail htail (fun _ hblank => isDigit_eq_false_of_isBlank hblank) text
  simp only [extract, hdigits, hafter]
  split
  · rfl
  · split <;> rfl

end IntegerType

/-- A token that begins a text also begins it if there are more blanks at the end. -/
theorem Token.scan?_append_tail {tail text : List Char} (htail : ∀ c ∈ tail, isBlank c = true)
    (hne : text ≠ []) :
    scan? (text ++ tail) =
      (scan? text).map fun token => { token with rest := token.rest ++ tail } := by
  obtain ⟨c, later, rfl⟩ := List.exists_cons_of_ne_nil hne
  have hquote : '"' ∉ tail := by
    intro hmem
    have hblank := htail '"' hmem
    revert hblank
    decide
  have hmem : '"' ∈ later ++ tail ↔ '"' ∈ later := by simp [hquote]
  rw [List.cons_append, scan?, scan?]
  simp only [hmem]
  by_cases hquoted : c = '"' ∧ '"' ∈ later
  · -- The text between the quotes ends before the blanks.
    have hends : later.dropWhile (· != '"') ≠ [] := by
      rw [ne_eq, List.dropWhile_eq_nil_iff]
      intro hopen
      simpa using hopen '"' hquoted.2
    obtain ⟨hvalue, hafter⟩ := takeWhile_append_of_dropWhile_ne_nil hends tail
    simp only [hquoted, and_self, if_true, hvalue, hafter, List.tail_append_of_ne_nil hends,
      Option.map_some]
  · obtain ⟨hword, hafter⟩ := leadingWord_append_tail htail (c :: later)
    rw [List.cons_append] at hword hafter
    simp [hquoted, bare, hword, hafter]

namespace TextType

/-- What the type makes of a text that begins with no blank. -/
def extract (type : TextType) (commands : List String) (text : List Char) :
    Except (List Diagnostic) Extract :=
  match Token.scan? text with
  | none => .error []
  | some token =>
    let value := String.ofList token.value
    match type.check commands value with
    | some diagnostic => .error [diagnostic]
    | none => .ok { value := .text value, taken := token.taken, rest := token.rest }

theorem read_eq (type : TextType) (commands : List String) (context : Context) :
    type.read commands context =
      .ofExtract context (type.extract commands (dropBlanks context.cursor.ahead)) := by
  simp only [read, extract]
  cases Token.scan? (dropBlanks context.cursor.ahead) with
  | none => rfl
  | some token =>
      simp only
      cases type.check commands (String.ofList token.value) <;> rfl

theorem extract_append_tail {tail text : List Char} (htail : ∀ c ∈ tail, isBlank c = true)
    (hne : text ≠ []) (type : TextType) (commands : List String) :
    type.extract commands (text ++ tail) =
      (type.extract commands text).map (Extract.extend tail) := by
  simp only [extract, Token.scan?_append_tail htail hne]
  cases Token.scan? text with
  | none => rfl
  | some token =>
      simp only [Option.map_some]
      split <;> rfl

end TextType

namespace ArgumentType

/-- What a type of numbers or of texts makes of a text that begins with no blank. -/
def extract (commands : List String) (type : ArgumentType) (ahead : List Char) :
    Except (List Diagnostic) Extract :=
  match type with
  | integer type => type.extract ahead
  | text type => type.extract commands ahead
  | custom _ => .error []

theorem IsStandard.read_eq {type : ArgumentType} (h : type.IsStandard) (commands : List String)
    (context : Context) :
    type.read commands context =
      .ofExtract context (type.extract commands (dropBlanks context.cursor.ahead)) := by
  cases type with
  | integer type => exact type.read_eq context
  | text type => exact type.read_eq commands context
  | custom read => exact h.elim

/-- Where there is no text, nothing is read and nothing is reported. -/
theorem extract_nil (commands : List String) (type : ArgumentType) :
    type.extract commands [] = .error [] := by
  cases type <;> rfl

theorem extract_append_tail {tail text : List Char} (htail : ∀ c ∈ tail, isBlank c = true)
    (hne : text ≠ []) (commands : List String) (type : ArgumentType) :
    type.extract commands (text ++ tail) =
      (type.extract commands text).map (Extract.extend tail) := by
  cases type with
  | integer type => exact type.extract_append_tail htail text
  | text type => exact type.extract_append_tail htail hne commands
  | custom read => rfl

end ArgumentType

end CommandTree
