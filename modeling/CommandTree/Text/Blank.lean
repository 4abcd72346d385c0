/-!
# Blank characters and words

A line of text is cut into words by *blank* characters: those with the Unicode
property `White_Space`.  This module holds the test for a blank, the split of a
text into its leading blanks and the rest, and the *leading word* of a text: its
longest initial run without blanks.
-/

namespace CommandTree.Text

/-- The code points with the property `White_Space`, as closed ranges. -/
def blankRanges : List (Nat × Nat) :=
  [(0x09, 0x0D), (0x20, 0x20), (0x85, 0x85), (0xA0, 0xA0), (0x1680, 0x1680),
    (0x2000, 0x200A), (0x2028, 0x2029), (0x202F, 0x202F), (0x205F, 0x205F),
    (0x3000, 0x3000)]

/-- Whether a character separates words. -/
def isBlank (c : Char) : Bool :=
  blankRanges.any fun range => range.1 ≤ c.toNat && c.toNat ≤ range.2

/-- The blanks a text starts with. -/
def leadingBlanks (text : List Char) : List Char :=
  text.takeWhile isBlank

/-- A text without the blanks it starts with. -/
def dropBlanks (text : List Char) : List Char :=
  text.dropWhile isBlank

/-- The longest initial run of a text that holds no blank. -/
def leadingWord (text : List Char) : List Char :=
  text.takeWhile fun c => !isBlank c

/-- What follows the leading word of a text. -/
def afterWord (text : List Char) : List Char :=
  text.dropWhile fun c => !isBlank c

/-- Whether a text starts at the edge of a word: it is over, or a blank comes next. -/
def startsAtEdge : List Char → Bool
  | [] => true
  | c :: _ => isBlank c

theorem leadingBlanks_append_dropBlanks (text : List Char) :
    leadingBlanks text ++ dropBlanks text = text :=
  List.takeWhile_append_dropWhile

theorem leadingWord_append_afterWord (text : List Char) :
    leadingWord text ++ afterWord text = text :=
  List.takeWhile_append_dropWhile

theorem isBlank_eq_false_of_mem_leadingWord {c : Char} {text : List Char}
    (h : c ∈ leadingWord text) : isBlank c = false := by
  induction text with
  | nil => simp [leadingWord] at h
  | cons d rest ih =>
    rw [leadingWord, List.takeWhile_cons] at h
    split at h
    · next hd =>
      rcases List.mem_cons.mp h with rfl | hmem
      · simpa using hd
      · exact ih hmem
    · simp at h

/-- What follows the leading word starts at the edge of a word. -/
theorem startsAtEdge_afterWord (text : List Char) : startsAtEdge (afterWord text) := by
  induction text with
  | nil => rfl
  | cons d rest ih =>
    rw [afterWord, List.dropWhile_cons]
    split
    · exact ih
    · next hd => simpa [startsAtEdge] using hd

/-- Every character that counts as whitespace in a program text is a blank. -/
theorem isBlank_of_isWhitespace {c : Char} (h : c.isWhitespace) : isBlank c := by
  simp only [Char.isWhitespace, Bool.or_eq_true, decide_eq_true_eq] at h
  rcases h with ((rfl | rfl) | rfl) | rfl <;> decide

end CommandTree.Text
