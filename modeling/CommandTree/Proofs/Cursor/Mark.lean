import CommandTree.Proofs.Text.Offset

/-!
# Marks

A *mark* is a line with an offset into it.  A cursor stands between two characters by
construction; nothing keeps a mark from standing inside one, and then the line cannot be cut
there.  The operations on marks compute with offsets and say `none` where a text would have
to be cut inside a character or past its end.

Each operation on cursors has its counterpart on marks.  From the mark of a cursor it can
always be carried out, and leads to the mark of the cursor that the operation on cursors
leads to; only seeking an offset can fail, and fails for cursors, too.
-/

namespace CommandTree

open Text

structure Mark where
  line : List Char
  offset : Nat
deriving DecidableEq, Repr

namespace Mark

/-- What is ahead of a mark. -/
def ahead? (mark : Mark) : Option (List Char) := from? mark.line mark.offset

def atEnd (mark : Mark) : Bool := width mark.line ≤ mark.offset

/-- The mark that many bytes further on. -/
def skip (mark : Mark) (size : Nat) : Mark := { mark with offset := mark.offset + size }

/-- The mark at an offset of the line; an offset past the end means the end. -/
def seek? (mark : Mark) (offset : Nat) : Option Mark :=
  let target := min offset (width mark.line)
  (from? mark.line target).map fun _ => { mark with offset := target }

/-- The width of the blanks ahead: what the rest without them lacks, which has to be a number. -/
def blankWidth? (mark : Mark) : Option Nat := do
  let ahead ← mark.ahead?
  if width (dropBlanks ahead) ≤ width ahead then
    return width ahead - width (dropBlanks ahead)
  else none

/-- What is ahead after the blanks, and the width of these. -/
def word? (mark : Mark) : Option (Nat × List Char) := do
  let blanks ← mark.blankWidth?
  let text ← from? (← mark.ahead?) blanks
  return (blanks, text)

def skipBlanks? (mark : Mark) : Option Mark := mark.blankWidth?.map mark.skip

/-- The mark after a word, if that word is what comes next after any blanks. -/
def consume? (mark : Mark) (word : String) : Option (Option Mark) := do
  let (blanks, text) ← mark.word?
  match after? word.toList text with
  | none => return none
  | some rest =>
    if !word.toList.isEmpty && startsAtEdge rest then
      return some (mark.skip (blanks + width word.toList))
    else return none

/-- Seeking a boundary succeeds. -/
theorem seek?_of_line_eq {mark : Mark} {front back : List Char}
    (hline : mark.line = front ++ back) :
    mark.seek? (width front) = some { mark with offset := width front } := by
  have hmin : min (width front) (width mark.line) = width front := by
    rw [hline, width_append]
    omega
  rw [seek?, hmin, hline, from?_append]
  rfl

end Mark

/-! ## The mark of a cursor -/

namespace Cursor

variable {cursor : Cursor} {taken rest : List Char}

def mark (cursor : Cursor) : Mark := ⟨cursor.line, cursor.offset⟩

@[simp] theorem ahead?_mark (cursor : Cursor) : cursor.mark.ahead? = some cursor.ahead :=
  from?_append _ _

@[simp] theorem atEnd_mark (cursor : Cursor) : cursor.mark.atEnd = cursor.atEnd := by
  obtain ⟨behind, ahead⟩ := cursor
  cases ahead with
  | nil => simp [mark, Mark.atEnd, Cursor.atEnd, line, offset]
  | cons c rest =>
      have hpos := c.utf8Size_pos
      simp [mark, Mark.atEnd, Cursor.atEnd, line, offset]
      omega

/-- The mark of a cursor that has moved forward. -/
theorem mark_advance (hahead : cursor.ahead = taken ++ rest) :
    (cursor.advance taken rest).mark = cursor.mark.skip (width taken) := by
  have hoffset : (cursor.advance taken rest).offset = cursor.offset + width taken := by
    simp [advance, offset]
  rw [mark, line_advance hahead, hoffset]
  rfl

/-- A mark can be moved forward to where the cursor can. -/
theorem seek?_mark_of_ahead_eq (hahead : cursor.ahead = taken ++ rest) :
    cursor.mark.seek? (cursor.offset + width taken) = some (cursor.advance taken rest).mark := by
  have hline : cursor.mark.line = (cursor.behind ++ taken) ++ rest := by
    rw [List.append_assoc, ← hahead]
    rfl
  have hseek := Mark.seek?_of_line_eq hline
  rw [width_append] at hseek
  rw [mark_advance hahead]
  exact hseek

theorem ahead_eq_of_dropBlanks_eq (htext : dropBlanks cursor.ahead = taken ++ rest) :
    cursor.ahead = (leadingBlanks cursor.ahead ++ taken) ++ rest := by
  rw [List.append_assoc, ← htext, leadingBlanks_append_dropBlanks]

/-- A mark can be moved past the blanks and what comes after them. -/
theorem seek?_mark_of_dropBlanks_eq (htext : dropBlanks cursor.ahead = taken ++ rest) :
    cursor.mark.seek? (cursor.mark.offset + (cursor.blankWidth + width taken)) =
      some (cursor.advance (leadingBlanks cursor.ahead ++ taken) rest).mark := by
  have hseek := seek?_mark_of_ahead_eq (ahead_eq_of_dropBlanks_eq htext)
  rw [width_append] at hseek
  exact hseek

/-- A mark can be moved back to where a cursor in the same line stood. -/
theorem seek?_mark_offset {last : Cursor} (hline : last.line = cursor.line) :
    last.mark.seek? cursor.offset = some cursor.mark := by
  have hcut : last.mark.line = cursor.behind ++ cursor.ahead := hline
  rw [offset, Mark.seek?_of_line_eq hcut, mark, mark, hline]
  rfl

/-- Seeking an offset succeeds or fails for a cursor and for its mark alike. -/
theorem seek?_mark (cursor : Cursor) (offset : Nat) :
    cursor.mark.seek? offset = (cursor.seek? offset).map Cursor.mark := by
  rw [Mark.seek?, seek?, from?]
  cases hcut : splitAtWidth? (min offset (width cursor.line)) cursor.line with
  | none => simp [mark, hcut]
  | some cut =>
      obtain ⟨hline, hwidth⟩ := append_eq_of_splitAtWidth? hcut
      have hcut' : splitAtWidth? (min offset (width cursor.mark.line)) cursor.mark.line =
          some cut := hcut
      have htarget : min offset (width cursor.mark.line) = width cut.1 := hwidth.symm
      have hmark : (⟨cut.1, cut.2⟩ : Cursor).mark = { cursor.mark with offset := width cut.1 } :=
        congrArg (Mark.mk · _) hline
      rw [hcut', htarget]
      exact congrArg some hmark.symm

theorem seek?_eq_none_iff {offset : Nat} :
    cursor.seek? offset = none ↔ ¬ IsBoundary cursor.line (min offset (width cursor.line)) := by
  rw [seek?, Option.map_eq_none_iff, splitAtWidth?_eq_none_iff]

theorem blankWidth?_mark (cursor : Cursor) :
    cursor.mark.blankWidth? = some cursor.blankWidth := by
  have hsplit := congrArg width (leadingBlanks_append_dropBlanks cursor.ahead)
  rw [width_append] at hsplit
  have hle : width (dropBlanks cursor.ahead) ≤ width cursor.ahead := by omega
  have hsub : width cursor.ahead - width (dropBlanks cursor.ahead) = cursor.blankWidth := by
    rw [blankWidth]
    omega
  rw [Mark.blankWidth?, ahead?_mark, Option.bind_eq_bind, Option.bind_some, if_pos hle, hsub]
  rfl

theorem word?_mark (cursor : Cursor) :
    cursor.mark.word? = some (cursor.blankWidth, dropBlanks cursor.ahead) := by
  have hcut : from? cursor.ahead cursor.blankWidth = some (dropBlanks cursor.ahead) :=
    from?_of_eq_append (leadingBlanks_append_dropBlanks cursor.ahead).symm
  simp [Mark.word?, blankWidth?_mark, hcut]

theorem skipBlanks?_mark (cursor : Cursor) :
    cursor.mark.skipBlanks? = some cursor.skipBlanks.mark := by
  have hahead := (leadingBlanks_append_dropBlanks cursor.ahead).symm
  rw [Mark.skipBlanks?, blankWidth?_mark, skipBlanks, mark_advance hahead]
  rfl

/-- Taking a word moves the mark as it moves the cursor. -/
theorem consume?_mark (cursor : Cursor) (word : String) :
    cursor.mark.consume? word = some ((cursor.consume? word).map Cursor.mark) := by
  rw [Mark.consume?, consume?, word?_mark]
  cases hafter : after? word.toList (dropBlanks cursor.ahead) with
  | none => simp [hafter]
  | some rest =>
      have hahead := ahead_eq_of_dropBlanks_eq (after?_eq_some_iff.mp hafter)
      have hmark := mark_advance hahead
      rw [width_append] at hmark
      by_cases hfits : (!word.toList.isEmpty && startsAtEdge rest) = true
      · simp only [Option.bind_eq_bind, Option.bind_some, hafter, if_pos hfits, Option.map_some,
          hmark, blankWidth]
        rfl
      · simp only [Option.bind_eq_bind, Option.bind_some, hafter, if_neg hfits, Option.map_none]
        rfl

end Cursor

end CommandTree
