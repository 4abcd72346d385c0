import CommandTree.Proofs.Argument.Admission
import CommandTree.Proofs.Argument.Token
import CommandTree.Proofs.Cursor.Mark

/-!
# Reading at a mark

Numbers and texts are read at a mark with nothing but offsets: the size of the blanks, the
number of bytes of digits, the place of the next double quote or blank.  From the mark of a
cursor this can always be done, and gives the value that is read at the cursor.

What else a type does is its own affair, as long as it keeps to the line (`KeepsLine`).
-/

namespace CommandTree

open Text

/-! ## Tokens -/

namespace Token

/-- The value of the token at the start of a text and the size of the token, cut out of the
text at the next double quote or the next blank. -/
def measure? : List Char → Option (Option (List Char × Nat))
  | [] => some none
  | c :: later =>
    match if c = '"' then offsetOf? (· == '"') later else none with
    | some close => (upTo? later close).map fun value => some (value, close + 2)
    | none =>
      let stop := (offsetOf? isBlank (c :: later)).getD (width (c :: later))
      (upTo? (c :: later) stop).map fun value => some (value, stop)

theorem offsetOf?_quote {later : List Char} (hmem : '"' ∈ later) :
    offsetOf? (· == '"') later = some (width (later.takeWhile (· != '"'))) := by
  have hany : later.any (· == '"') = true := by simpa using hmem
  rw [offsetOf?_eq, if_pos hany]
  rfl

theorem measure?_eq (text : List Char) :
    measure? text = some ((scan? text).map fun token => (token.value, width token.taken)) := by
  cases text with
  | nil => rfl
  | cons c later =>
      rw [measure?, scan?]
      by_cases hquoted : c = '"' ∧ '"' ∈ later
      · have hclose := offsetOf?_quote hquoted.2
        have hcut := upTo?_of_eq_append
          (List.takeWhile_append_dropWhile (p := (· != '"')) (l := later)).symm
        have hsize : '"'.utf8Size = 1 := rfl
        rw [if_pos hquoted, if_pos hquoted.1, hclose]
        simp [hcut, hsize]
        omega
      · have hopen : (if c = '"' then offsetOf? (· == '"') later else none) = none := by
          by_cases hc : c = '"'
          · rw [if_pos hc, offsetOf?_eq, if_neg]
            simpa using fun hmem => hquoted ⟨hc, hmem⟩
          · rw [if_neg hc]
        have hcut := upTo?_of_eq_append (leadingWord_append_afterWord (c :: later)).symm
        have hstop : (offsetOf? isBlank (c :: later)).getD (width (c :: later)) =
            width (leadingWord (c :: later)) := getD_offsetOf? isBlank (c :: later)
        rw [if_neg hquoted, hopen]
        simp only [hstop, hcut]
        rfl

end Token

/-! ## Numbers and texts -/

/-- Read a number: its digits are cut out of the text by the number of their bytes. -/
def IntegerType.readAt? (type : IntegerType) (mark : Mark) : Option (Option (Value × Mark)) := do
  let (blanks, text) ← mark.word?
  let count := digitCount text
  if count = 0 then return none
  else
    let digits ← upTo? text count
    let number := numberOf digits
    if largest < number || (type.check number).isSome then return none
    else
      let next ← mark.seek? (mark.offset + (blanks + count))
      return some (.integer number, next)

/-- Read a text. -/
def TextType.readAt? (type : TextType) (commands : List String) (mark : Mark) :
    Option (Option (Value × Mark)) := do
  let (blanks, text) ← mark.word?
  match ← Token.measure? text with
  | none => return none
  | some (value, size) =>
    if (type.check commands (String.ofList value)).isSome then return none
    else
      let next ← mark.seek? (mark.offset + (blanks + size))
      return some (.text (String.ofList value), next)

/-- The value of a reading and the mark after it, if there is a value. -/
def Reading.marked? (reading : Reading) : Option (Value × Mark) :=
  reading.value?.map fun value => (value, reading.context.cursor.mark)

theorem IntegerType.readAt?_mark (type : IntegerType) (context : Context) :
    type.readAt? context.cursor.mark = some (type.read context).marked? := by
  have hsplit := (leadingDigits_append_afterDigits (dropBlanks context.cursor.ahead)).symm
  have hcut := upTo?_of_eq_append hsplit
  have hseek := Cursor.seek?_mark_of_dropBlanks_eq hsplit
  rw [readAt?, Cursor.word?_mark, read]
  simp only [Option.bind_eq_bind, Option.bind_some, digitCount_eq, width_eq_zero_iff, hcut]
  generalize leadingDigits (dropBlanks context.cursor.ahead) = digits at hseek ⊢
  by_cases hdigits : digits = []
  · simp [hdigits, Reading.marked?, Reading.refused]
  · by_cases hlarge : largest < numberOf digits
    · simp [hdigits, hlarge, Reading.marked?, Reading.refused]
    · cases type.check (numberOf digits) with
      | some diagnostic => simp [hdigits, hlarge, Reading.marked?, Reading.refused]
      | none => simp [hdigits, hlarge, hseek, Reading.marked?, Reading.accepted, Context.moveTo]

theorem TextType.readAt?_mark (type : TextType) (commands : List String) (context : Context) :
    type.readAt? commands context.cursor.mark =
      some (type.read commands context).marked? := by
  rw [readAt?, Cursor.word?_mark, read]
  simp only [Option.bind_eq_bind, Option.bind_some, Token.measure?_eq]
  cases hscan : Token.scan? (dropBlanks context.cursor.ahead) with
  | none => simp [Reading.marked?, Reading.refused]
  | some token =>
      have hseek := Cursor.seek?_mark_of_dropBlanks_eq
        (Token.taken_append_rest_of_scan? hscan).symm
      cases hcheck : type.check commands (String.ofList token.value) with
      | some diagnostic => simp [hcheck, Reading.marked?, Reading.refused]
      | none => simp [hcheck, hseek, Reading.marked?, Reading.accepted, Context.moveTo]

/-! ## Types in general -/

/-- A state of matching with a mark in place of the cursor. -/
structure MarkedContext where
  mark : Mark
  bindings : Bindings

def Context.marked (context : Context) : MarkedContext :=
  ⟨context.cursor.mark, context.bindings⟩

namespace MarkedContext

/-- What a reading at the mark makes of the state. -/
def after (marked : MarkedContext) : Option (Value × Mark) → Option Value × MarkedContext
  | none => (none, marked)
  | some (value, mark) => (some value, { marked with mark })

/-- The state with the cursor that stands at the mark, which has to be a boundary. -/
def context? (marked : MarkedContext) : Option Context :=
  (splitAtWidth? marked.mark.offset marked.mark.line).map fun cut =>
    { cursor := ⟨cut.1, cut.2⟩, bindings := marked.bindings }

end MarkedContext

theorem Context.context?_marked (context : Context) :
    context.marked.context? = some context := by
  have hcut := splitAtWidth?_append context.cursor.behind context.cursor.ahead
  exact congrArg (Option.map _) hcut

/-- Read a value.  A type that is given by a function needs a cursor at the mark. -/
def ArgumentType.readAt? (commands : List String) (type : ArgumentType)
    (marked : MarkedContext) : Option (Option Value × MarkedContext) :=
  match type with
  | integer type => (type.readAt? marked.mark).map marked.after
  | text type => (type.readAt? commands marked.mark).map marked.after
  | custom read => marked.context?.map fun context =>
      ((read commands context).value?, (read commands context).context.marked)

theorem Reading.Orderly.after_marked? {context : Context} {reading : Reading}
    (h : reading.Orderly context) :
    context.marked.after reading.marked? = (reading.value?, reading.context.marked) := by
  cases h <;> rfl

theorem ArgumentType.readAt?_marked (commands : List String) (type : ArgumentType)
    (context : Context) :
    type.readAt? commands context.marked =
      some ((type.read commands context).value?,
        (type.read commands context).context.marked) := by
  cases type with
  | integer type =>
      have hread := congrArg (Option.map context.marked.after) (type.readAt?_mark context)
      exact hread.trans (congrArg some (type.orderly_read context).after_marked?)
  | text type =>
      have hread := congrArg (Option.map context.marked.after)
        (type.readAt?_mark commands context)
      exact hread.trans (congrArg some (type.orderly_read commands context).after_marked?)
  | custom read => simp [readAt?, Context.context?_marked, ArgumentType.read]

/-! ## Keeping to the line -/

namespace ArgumentType

/-- Wherever the type leaves the cursor, it is in the same line. -/
def KeepsLine (type : ArgumentType) : Prop :=
  ∀ commands context,
    (type.read commands context).context.cursor.line = context.cursor.line

theorem keepsLine_integer (type : IntegerType) : (integer type).KeepsLine := by
  intro commands context
  have hahead := Cursor.ahead_eq_of_dropBlanks_eq
    (IntegerType.leadingDigits_append_afterDigits (dropBlanks context.cursor.ahead)).symm
  simp only [read, IntegerType.read]
  split
  · rfl
  · split
    · rfl
    · exact Cursor.line_advance hahead

theorem keepsLine_text (type : TextType) : (text type).KeepsLine := by
  intro commands context
  simp only [read, TextType.read]
  split
  · rfl
  · next token hscan =>
      have hahead := Cursor.ahead_eq_of_dropBlanks_eq
        (Token.taken_append_rest_of_scan? hscan).symm
      split
      · rfl
      · exact Cursor.line_advance hahead

theorem IsStandard.keepsLine {type : ArgumentType} (h : type.IsStandard) :
    type.KeepsLine := by
  cases type with
  | integer type => exact keepsLine_integer type
  | text type => exact keepsLine_text type
  | custom read => exact h.elim

end ArgumentType

end CommandTree
