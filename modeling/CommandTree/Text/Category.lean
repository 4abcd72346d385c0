import CommandTree.Text.Category.Letter
import CommandTree.Text.Category.Mark
import CommandTree.Text.Category.Number
import CommandTree.Text.Category.Punctuation
import CommandTree.Text.Category.Separator
import CommandTree.Text.Category.Symbol

/-!
# Kinds of characters

The tests on characters that are built from the general categories: characters of words,
and characters that are visible on their own.
-/

namespace CommandTree.Text

open Category

/-- Letters of any kind. -/
def letterSpans : List Span :=
  uppercaseLetters ++ lowercaseLetters ++ titlecaseLetters ++ modifierLetters ++ otherLetters

def markSpans : List Span := nonspacingMarks ++ spacingMarks ++ enclosingMarks

def numberSpans : List Span := decimalDigits ++ letterNumbers ++ otherNumbers

/-- Punctuation of any kind. -/
def punctuationSpans : List Span :=
  connectorPunctuation ++ dashPunctuation ++ openPunctuation ++ closePunctuation
    ++ initialPunctuation ++ finalPunctuation ++ otherPunctuation

/-- Symbols of any kind. -/
def symbolSpans : List Span :=
  mathSymbols ++ currencySymbols ++ modifierSymbols ++ otherSymbols

/-- Letters in a circle or a square, which count as letters of a word. -/
def enclosedLetters : List Span :=
  [⟨0x24B6, 0x24E9, 1⟩, ⟨0x1F130, 0x1F149, 1⟩, ⟨0x1F150, 0x1F169, 1⟩, ⟨0x1F170, 0x1F189, 1⟩]

/-- The two controls that join or part letters of a word. -/
def joinControls : List Span := [⟨0x200C, 0x200D, 1⟩]

/-- Characters with the property `Alphabetic` or otherwise part of a word: letters, marks,
digits, connecting punctuation and the join controls. -/
def wordSpans : List Span :=
  [⟨0x61, 0x7A, 1⟩, ⟨0x41, 0x5A, 1⟩, ⟨0x30, 0x39, 1⟩, ⟨0x5F, 0x5F, 1⟩]
    ++ letterSpans ++ letterNumbers ++ enclosedLetters ++ markSpans ++ decimalDigits
    ++ connectorPunctuation ++ joinControls

/-- Characters that are drawn as part of the character before them, apart from the marks
without a width and around a character. -/
def attachedSpans : List Span :=
  [⟨0x9BE, 0x9BE, 1⟩, ⟨0x9D7, 0x9D7, 1⟩, ⟨0xB3E, 0xB3E, 1⟩, ⟨0xB57, 0xB57, 1⟩, ⟨0xBBE, 0xBBE, 1⟩,
    ⟨0xBD7, 0xBD7, 1⟩, ⟨0xCC2, 0xCC2, 1⟩, ⟨0xCD5, 0xCD6, 1⟩, ⟨0xD3E, 0xD3E, 1⟩, ⟨0xD57, 0xD57, 1⟩,
    ⟨0xDCF, 0xDCF, 1⟩, ⟨0xDDF, 0xDDF, 1⟩, ⟨0x1B35, 0x1B35, 1⟩, ⟨0x200C, 0x200C, 1⟩,
    ⟨0x302E, 0x302F, 1⟩, ⟨0xFF9E, 0xFF9F, 1⟩, ⟨0x1133E, 0x1133E, 1⟩, ⟨0x11357, 0x11357, 1⟩,
    ⟨0x114B0, 0x114B0, 1⟩, ⟨0x114BD, 0x114BD, 1⟩, ⟨0x115AF, 0x115AF, 1⟩, ⟨0x11930, 0x11930, 1⟩,
    ⟨0x1D165, 0x1D165, 1⟩, ⟨0x1D16E, 0x1D172, 1⟩, ⟨0xE0020, 0xE007F, 1⟩]

def isWordChar (c : Char) : Bool := inSpans wordSpans c

/-- Whether a character is drawn as part of the one before it. -/
def isAttached (c : Char) : Bool :=
  inSpans nonspacingMarks c || inSpans enclosingMarks c || inSpans attachedSpans c

/-- Whether a character has a shape: a letter, mark, number, punctuation mark or symbol, or
the plain space. -/
def hasShape (c : Char) : Bool :=
  c == ' ' || inSpans letterSpans c || inSpans markSpans c || inSpans numberSpans c
    || inSpans punctuationSpans c || inSpans symbolSpans c

/-- Whether a character is visible on its own. -/
def isVisible (c : Char) : Bool :=
  if c.toNat < 0x7F then 0x20 ≤ c.toNat else hasShape c && !isAttached c

/-- The ASCII letters and digits are part of words. -/
theorem isWordChar_of_isAlphanum {c : Char} (h : c.isAlphanum) : isWordChar c := by
  have hval : c.toNat = c.val.toNat := rfl
  delta Char.isAlphanum Char.isAlpha Char.isUpper Char.isLower Char.isDigit at h
  simp only [Bool.or_eq_true, Bool.and_eq_true, decide_eq_true_eq, ge_iff_le,
    UInt32.le_iff_toNat_le] at h
  simp only [isWordChar, inSpans, wordSpans, List.any_append, Bool.or_eq_true, List.any_cons,
    List.any_nil, Span.contains, Bool.and_eq_true, decide_eq_true_eq, Nat.mod_one,
    beq_self_eq_true, and_true]
  simp at h
  iterate 7 left
  omega

end CommandTree.Text
