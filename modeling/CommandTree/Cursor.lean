import CommandTree.Text.Affix
import CommandTree.Text.Blank
import CommandTree.Text.Width

/-!
# Cursors

A cursor is a place in a line: the text behind it and the text ahead of it.  It stands
between two characters by construction.  Its offset is the width of the text behind it.
-/

namespace CommandTree

/-- A place in a line. -/
structure Cursor where
  behind : List Char
  ahead : List Char
deriving DecidableEq, Repr

namespace Cursor

open Text

def start (line : List Char) : Cursor := ⟨[], line⟩

def line (cursor : Cursor) : List Char := cursor.behind ++ cursor.ahead

def offset (cursor : Cursor) : Nat := width cursor.behind

def atEnd (cursor : Cursor) : Bool := cursor.ahead.isEmpty

def blankWidth (cursor : Cursor) : Nat := width (leadingBlanks cursor.ahead)

/-- The place after `taken`, where `rest` is what follows `taken` ahead. -/
def advance (cursor : Cursor) (taken rest : List Char) : Cursor :=
  ⟨cursor.behind ++ taken, rest⟩

/-- The place after the blanks ahead. -/
def skipBlanks (cursor : Cursor) : Cursor :=
  cursor.advance (leadingBlanks cursor.ahead) (dropBlanks cursor.ahead)

def toEnd (cursor : Cursor) : Cursor := cursor.advance cursor.ahead []

/-- The place at an offset of the line; an offset past the end means the end.  There is no
place inside a character. -/
def seek? (cursor : Cursor) (offset : Nat) : Option Cursor :=
  (splitAtWidth? (min offset (width cursor.line)) cursor.line).map fun cut =>
    ⟨cut.1, cut.2⟩

/-- The place after a word, if that word is what comes next after any blanks. -/
def consume? (cursor : Cursor) (word : String) : Option Cursor :=
  match after? word.toList (dropBlanks cursor.ahead) with
  | none => none
  | some rest =>
    if !word.toList.isEmpty && startsAtEdge rest then
      some (cursor.advance (leadingBlanks cursor.ahead ++ word.toList) rest)
    else none

@[simp] theorem line_start (text : List Char) : (start text).line = text := rfl

/-- Moving forward stays in the line. -/
theorem line_advance {cursor : Cursor} {taken rest : List Char}
    (h : cursor.ahead = taken ++ rest) : (cursor.advance taken rest).line = cursor.line := by
  simp [advance, line, h]

@[simp] theorem line_skipBlanks (cursor : Cursor) : cursor.skipBlanks.line = cursor.line :=
  line_advance (leadingBlanks_append_dropBlanks _).symm

@[simp] theorem line_toEnd (cursor : Cursor) : cursor.toEnd.line = cursor.line :=
  line_advance (by simp)

theorem line_of_seek? {cursor next : Cursor} {offset : Nat}
    (h : cursor.seek? offset = some next) : next.line = cursor.line := by
  obtain ⟨cut, hcut, rfl⟩ := Option.map_eq_some_iff.mp h
  exact (append_eq_of_splitAtWidth? hcut).1

theorem line_of_consume? {cursor next : Cursor} {word : String}
    (h : cursor.consume? word = some next) : next.line = cursor.line := by
  unfold consume? at h
  split at h
  · simp at h
  · next rest hafter =>
    split at h
    · obtain rfl := by simpa using h
      apply line_advance
      rw [List.append_assoc, ← after?_eq_some_iff.mp hafter,
        leadingBlanks_append_dropBlanks]
    · simp at h

end Cursor

end CommandTree
