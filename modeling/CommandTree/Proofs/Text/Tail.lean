import CommandTree.Proofs.Text.Word
import Mathlib.Data.List.TakeWhile

/-!
# Blanks at the end

A text with more blanks at its end has the same leading word and is cut in the same places;
the blanks are added to what is left.  The exception is a text without words, all of which
are leading blanks.  A word comes next in a line with more blanks exactly if it does in the
line without them (`consume?_extend`).
-/

namespace CommandTree

namespace Text

section

variable {tail : List Char} (htail : ∀ c ∈ tail, isBlank c = true)

include htail

/-- A run of characters that are no blanks does not go on into blanks. -/
theorem takeWhile_append_tail {p : Char → Bool} (hp : ∀ c, isBlank c = true → p c = false)
    (text : List Char) :
    (text ++ tail).takeWhile p = text.takeWhile p ∧
      (text ++ tail).dropWhile p = text.dropWhile p ++ tail := by
  induction text with
  | nil =>
      cases tail with
      | nil => exact ⟨rfl, rfl⟩
      | cons c later =>
          have hc := hp c (htail c List.mem_cons_self)
          simp [hc]
  | cons c text ih =>
      by_cases hc : p c = true
      · simp [hc, ih]
      · simp [hc]

theorem leadingWord_append_tail (text : List Char) :
    leadingWord (text ++ tail) = leadingWord text ∧
      afterWord (text ++ tail) = afterWord text ++ tail :=
  takeWhile_append_tail htail (by simp) text

theorem dropBlanks_append_tail_of_eq_nil {text : List Char} (hnone : dropBlanks text = []) :
    dropBlanks (text ++ tail) = [] := by
  rw [dropBlanks, List.dropWhile_eq_nil_iff] at hnone ⊢
  exact List.forall_mem_append.mpr ⟨hnone, htail⟩

theorem startsAtEdge_append_tail (text : List Char) :
    startsAtEdge (text ++ tail) = startsAtEdge text := by
  cases text with
  | cons c text => rfl
  | nil =>
      cases tail with
      | nil => rfl
      | cons c later => exact htail c List.mem_cons_self

/-- A word is a beginning of a text with blanks at its end only if it is one of the text. -/
theorem after?_append_tail {word : List Char} (hword : IsWord word) (text : List Char) :
    after? word (text ++ tail) = (after? word text).map (· ++ tail) := by
  fun_induction after? word text with
  | case1 => rfl
  | case2 c lead =>
      cases tail with
      | nil => rfl
      | cons d later =>
          have hc := hword c List.mem_cons_self
          have hd := htail d List.mem_cons_self
          have hne : c ≠ d := by
            rintro rfl
            simp [hc] at hd
          simp [after?, hne]
  | case3 lead c text ih =>
      have hlead : IsWord lead := fun d hd => hword d (List.mem_cons_of_mem c hd)
      simp [after?, ih hlead]
  | case4 c lead d text hne => simp [after?, hne]

end

/-- A run that ends within a text is not changed by what comes after the text. -/
theorem takeWhile_append_of_dropWhile_ne_nil {p : Char → Bool} {text : List Char}
    (hends : text.dropWhile p ≠ []) (tail : List Char) :
    (text ++ tail).takeWhile p = text.takeWhile p ∧
      (text ++ tail).dropWhile p = text.dropWhile p ++ tail := by
  have hdrop : (text ++ tail).dropWhile p = text.dropWhile p ++ tail := by
    rw [List.dropWhile_append, if_neg (by simpa using hends)]
  refine ⟨?_, hdrop⟩
  have hsplit := List.takeWhile_append_dropWhile (p := p) (l := text ++ tail)
  rw [hdrop, ← List.append_assoc] at hsplit
  apply List.append_cancel_right (List.append_cancel_right hsplit |>.trans _)
  exact List.takeWhile_append_dropWhile.symm

/-- Where a text has words, it is only what comes after the blanks that is longer. -/
theorem dropBlanks_append_tail {text : List Char} (hsome : dropBlanks text ≠ [])
    (tail : List Char) :
    leadingBlanks (text ++ tail) = leadingBlanks text ∧
      dropBlanks (text ++ tail) = dropBlanks text ++ tail :=
  takeWhile_append_of_dropWhile_ne_nil hsome tail

end Text

namespace Cursor

open Text

/-- The same place in a line with more text at its end. -/
def extend (tail : List Char) (cursor : Cursor) : Cursor :=
  { cursor with ahead := cursor.ahead ++ tail }

@[simp] theorem offset_extend (tail : List Char) (cursor : Cursor) :
    (cursor.extend tail).offset = cursor.offset := rfl

@[simp] theorem line_extend (tail : List Char) (cursor : Cursor) :
    (cursor.extend tail).line = cursor.line ++ tail := by
  simp [extend, line]

theorem consume?_extend {tail : List Char} (htail : ∀ c ∈ tail, isBlank c = true)
    {token : String} (hword : IsWord token.toList) (cursor : Cursor) :
    (cursor.extend tail).consume? token = (cursor.consume? token).map (extend tail) := by
  by_cases hnone : dropBlanks cursor.ahead = []
  · have hnone' : dropBlanks (cursor.extend tail).ahead = [] :=
      dropBlanks_append_tail_of_eq_nil htail hnone
    rw [consume?, consume?, hnone, hnone']
    cases token.toList <;> simp [after?]
  · obtain ⟨hleading, hdrop⟩ := dropBlanks_append_tail hnone tail
    have hafter := after?_append_tail htail hword (dropBlanks cursor.ahead)
    simp only [consume?, extend, hleading, hdrop, hafter]
    cases after? token.toList (dropBlanks cursor.ahead) with
    | none => rfl
    | some rest =>
        simp only [Option.map_some, startsAtEdge_append_tail htail]
        split <;> rfl

end Cursor

end CommandTree
