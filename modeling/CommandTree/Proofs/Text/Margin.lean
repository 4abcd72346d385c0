import CommandTree.Proofs.Text.Word
import Mathlib.Data.List.Basic

/-!
# Lines that are set in

A line is set in by the spaces it begins with.  Lines that are joined, each with a line feed at
its end, can be told apart again if they have no line feeds of their own.
-/

namespace CommandTree.Text

def spaces (width : Nat) : String := String.ofList (List.replicate width ' ')

theorem length_spaces (width : Nat) : (spaces width).length = width := by
  simp [spaces]

theorem spaces_add (first second : Nat) :
    spaces (first + second) = spaces first ++ spaces second := by
  rw [spaces, spaces, spaces, List.replicate_add, String.ofList_append]

theorem eq_spaces_length {text : String} (h : ∀ c ∈ text.toList, c = ' ') :
    text = spaces text.length := by
  rw [spaces, ← String.length_toList, ← List.eq_replicate_length.mpr h, String.ofList_toList]

/-- How far a line is set in. -/
def margin (line : String) : Nat := (line.toList.takeWhile (· == ' ')).length

theorem margin_spaces_append (width : Nat) {text : String} (h : ∀ c ∈ text.toList.head?, c ≠ ' ') :
    margin (spaces width ++ text) = width := by
  have hspaces : ∀ c ∈ List.replicate width ' ', (c == ' ') = true := by
    intro c hc
    simpa using List.eq_of_mem_replicate hc
  have htext : ∀ c ∈ text.toList.head?, (c == ' ') = false := by
    intro c hc
    simpa using h c hc
  rw [margin, spaces, String.toList_append, String.toList_ofList,
    (takeWhile_append_of_head? hspaces htext).1, List.length_replicate]

/-- Lines one after the other, each with a line feed at its end. -/
def joinLines (lines : List String) : String := String.join (lines.map (· ++ "\n"))

theorem joinLines_cons (line : String) (rest : List String) :
    joinLines (line :: rest) = line ++ "\n" ++ joinLines rest := by
  rw [joinLines, List.map_cons, String.join_cons, joinLines]

theorem toList_joinLines_cons (line : String) (rest : List String) :
    (joinLines (line :: rest)).toList = line.toList ++ '\n' :: (joinLines rest).toList := by
  simp [joinLines_cons]

theorem joinLines_cons_ne_nil (line : String) (rest : List String) :
    joinLines (line :: rest) ≠ joinLines [] := by
  intro h
  have hchars := congrArg String.toList h
  rw [toList_joinLines_cons] at hchars
  simp [joinLines] at hchars

theorem joinLines_append (lines more : List String) :
    joinLines (lines ++ more) = joinLines lines ++ joinLines more := by
  rw [joinLines, joinLines, joinLines, List.map_append, String.join_append]

theorem joinLines_flatMap {γ : Type} (items : List γ) (lines : γ → List String) :
    joinLines (items.flatMap lines) =
      String.join (items.map fun item => joinLines (lines item)) := by
  induction items with
  | nil => rfl
  | cons item rest ih =>
      rw [List.flatMap_cons, joinLines_append, ih, List.map_cons, String.join_cons]

/-- A line goes on to the first line feed. -/
theorem takeWhile_line {line : String} (hline : '\n' ∉ line.toList) (rest : List Char) :
    (line.toList ++ '\n' :: rest).takeWhile (· != '\n') = line.toList ∧
      (line.toList ++ '\n' :: rest).dropWhile (· != '\n') = '\n' :: rest := by
  apply takeWhile_append_of_head?
  · intro c hc
    rw [bne_iff_ne]
    rintro rfl
    exact hline hc
  · intro c hc
    obtain rfl : '\n' = c := Option.some.inj hc
    rfl

/-- Lines without line feeds can be told apart again. -/
theorem eq_of_joinLines_eq {lines others : List String}
    (hlines : ∀ line ∈ lines, '\n' ∉ line.toList) (hothers : ∀ line ∈ others, '\n' ∉ line.toList)
    (h : joinLines lines = joinLines others) : lines = others := by
  induction lines generalizing others with
  | nil =>
      cases others with
      | nil => rfl
      | cons other later => exact absurd h.symm (joinLines_cons_ne_nil other later)
  | cons line rest ih =>
      cases others with
      | nil => exact absurd h (joinLines_cons_ne_nil line rest)
      | cons other later =>
          rw [List.forall_mem_cons] at hlines hothers
          obtain ⟨hline, hrest⟩ := takeWhile_line hlines.1 (joinLines rest).toList
          obtain ⟨hother, hlater⟩ := takeWhile_line hothers.1 (joinLines later).toList
          have hchars := congrArg String.toList h
          rw [toList_joinLines_cons, toList_joinLines_cons] at hchars
          rw [hchars] at hline hrest
          have hsame : joinLines rest = joinLines later :=
            String.toList_inj.mp (List.cons.inj (hrest.symm.trans hlater)).2
          rw [String.toList_inj.mp (hline.symm.trans hother), ih hlines.2 hothers.2 hsame]

end CommandTree.Text
