import CommandTree.Cursor
import Mathlib.Data.List.Basic
import Mathlib.Data.List.TakeWhile

/-!
# Words

A word is a text without blanks.  The leading word of a text is the only word that is
followed by an edge there, so a literal comes next in a line exactly if it is the
leading word of what follows the blanks (`consume?_eq_some_iff`).
-/

namespace CommandTree

namespace Text

/-- A text without blanks. -/
def IsWord (text : List Char) : Prop :=
  ∀ c ∈ text, isBlank c = false

instance (text : List Char) : Decidable (IsWord text) :=
  List.decidableBAll (fun c => isBlank c = false) text

/-- A run of items with a property goes on to the first item without it. -/
theorem takeWhile_append_of_head? {α : Type} {p : α → Bool} {run rest : List α}
    (hrun : ∀ c ∈ run, p c = true) (hrest : ∀ c ∈ rest.head?, p c = false) :
    (run ++ rest).takeWhile p = run ∧ (run ++ rest).dropWhile p = rest := by
  induction run with
  | nil =>
      cases rest with
      | nil => exact ⟨rfl, rfl⟩
      | cons c later =>
          have hc := hrest c rfl
          simp [hc]
  | cons c run ih =>
      have hc := hrun c List.mem_cons_self
      obtain ⟨htake, hdrop⟩ := ih fun d hd => hrun d (List.mem_cons_of_mem c hd)
      simp [hc, htake, hdrop]

/-- What follows the run of characters with a property begins with one without it. -/
theorem eq_false_of_mem_head?_dropWhile {p : Char → Bool} {text : List Char} {c : Char}
    (hc : c ∈ (text.dropWhile p).head?) : p c = false := by
  have hhead := List.head?_dropWhile_not p text
  rw [Option.mem_def] at hc
  rw [hc] at hhead
  exact hhead

theorem leadingWord_append {word rest : List Char} (hword : IsWord word)
    (hedge : startsAtEdge rest = true) :
    leadingWord (word ++ rest) = word ∧ afterWord (word ++ rest) = rest := by
  apply takeWhile_append_of_head?
  · intro c hc
    simp [hword c hc]
  · intro c hc
    cases rest with
    | nil => cases hc
    | cons d later =>
        obtain rfl : d = c := Option.some.inj hc
        have hblank : isBlank d = true := hedge
        simp [hblank]

theorem leadingWord_cons {c : Char} (hc : isBlank c = false) (later : List Char) :
    leadingWord (c :: later) = c :: leadingWord later := by
  simp [leadingWord, hc]

/-- A word followed by an edge is the leading word. -/
theorem leadingWord_eq_iff {text word : List Char} (hword : IsWord word) :
    leadingWord text = word ↔ ∃ rest, text = word ++ rest ∧ startsAtEdge rest = true := by
  constructor
  · rintro rfl
    exact ⟨afterWord text, (leadingWord_append_afterWord text).symm,
      startsAtEdge_afterWord text⟩
  · rintro ⟨rest, rfl, hedge⟩
    exact (leadingWord_append hword hedge).1

@[simp] theorem leadingWord_of_isWord {word : List Char} (hword : IsWord word) :
    leadingWord word = word := by
  have hedge : startsAtEdge [] = true := rfl
  simpa using (leadingWord_append hword hedge).1

@[simp] theorem dropBlanks_of_isWord {word : List Char} (hword : IsWord word) :
    dropBlanks word = word := by
  cases word with
  | nil => rfl
  | cons c rest =>
      have hc := hword c List.mem_cons_self
      simp [dropBlanks, hc]

theorem isBlank_eq_false_of_mem_head?_dropBlanks {text : List Char} {c : Char}
    (hc : c ∈ (dropBlanks text).head?) : isBlank c = false :=
  eq_false_of_mem_head?_dropWhile hc

/-- Blanks before a text that begins with none are all that is dropped. -/
theorem leadingBlanks_append {blanks text : List Char} (hblanks : ∀ c ∈ blanks, isBlank c = true)
    (htext : ∀ c ∈ text.head?, isBlank c = false) :
    leadingBlanks (blanks ++ text) = blanks ∧ dropBlanks (blanks ++ text) = text :=
  takeWhile_append_of_head? hblanks htext

theorem isBlank_eq_false_of_mem_head?_append {word : List Char} (hword : IsWord word)
    (hne : word ≠ []) (rest : List Char) : ∀ c ∈ (word ++ rest).head?, isBlank c = false := by
  intro c hc
  rw [List.head?_append_of_ne_nil _ hne] at hc
  exact hword c (List.mem_of_mem_head? hc)

end Text

namespace Cursor

open Text

/-- The word that comes next, after any blanks.  It is empty at the end of a line. -/
def nextWord (cursor : Cursor) : List Char := leadingWord (dropBlanks cursor.ahead)

/-- The place after that word. -/
def pastWord (cursor : Cursor) : Cursor :=
  cursor.advance (leadingBlanks cursor.ahead ++ cursor.nextWord)
    (afterWord (dropBlanks cursor.ahead))

theorem nextWord_of_dropBlanks_eq_cons {cursor : Cursor} {c : Char} {later : List Char}
    (hdrop : dropBlanks cursor.ahead = c :: later) :
    cursor.nextWord = c :: leadingWord later := by
  have hc : isBlank c = false := isBlank_eq_false_of_mem_head?_dropBlanks (by rw [hdrop]; rfl)
  rw [nextWord, hdrop, leadingWord_cons hc]

theorem nextWord_eq_nil_iff {cursor : Cursor} :
    cursor.nextWord = [] ↔ dropBlanks cursor.ahead = [] := by
  constructor
  · intro hword
    by_contra hne
    obtain ⟨c, later, hdrop⟩ := List.exists_cons_of_ne_nil hne
    simp [nextWord_of_dropBlanks_eq_cons hdrop] at hword
  · intro hdrop
    rw [nextWord, hdrop, leadingWord, List.takeWhile_nil]

/-- The word is what is ahead from the first character that is not a blank to the next blank. -/
structure ComesNext (cursor : Cursor) (blanks word rest : List Char) : Prop where
  ahead_eq : cursor.ahead = blanks ++ (word ++ rest)
  allBlank : ∀ c ∈ blanks, isBlank c = true
  starts : ∀ c ∈ (word ++ rest).head?, isBlank c = false
  isWord : IsWord word
  ends : startsAtEdge rest = true

theorem comesNext_nextWord (cursor : Cursor) :
    cursor.ComesNext (leadingBlanks cursor.ahead) cursor.nextWord
      (afterWord (dropBlanks cursor.ahead)) := by
  have hsplit : cursor.nextWord ++ afterWord (dropBlanks cursor.ahead) = dropBlanks cursor.ahead :=
    leadingWord_append_afterWord _
  constructor
  · rw [hsplit, leadingBlanks_append_dropBlanks]
  · intro c hc
    exact List.mem_takeWhile_imp hc
  · rw [hsplit]
    intro c hc
    exact isBlank_eq_false_of_mem_head?_dropBlanks hc
  · intro c hc
    exact isBlank_eq_false_of_mem_leadingWord hc
  · exact startsAtEdge_afterWord _

/-- There is only one word that comes next. -/
theorem ComesNext.nextWord_eq {cursor : Cursor} {blanks word rest : List Char}
    (h : cursor.ComesNext blanks word rest) :
    cursor.nextWord = word ∧ cursor.pastWord = cursor.advance (blanks ++ word) rest := by
  obtain ⟨hleading, hdrop⟩ := leadingBlanks_append h.allBlank h.starts
  obtain ⟨hfirst, hafter⟩ := leadingWord_append h.isWord h.ends
  have hnext : cursor.nextWord = word := by
    rw [nextWord, h.ahead_eq, hdrop, hfirst]
  refine ⟨hnext, ?_⟩
  rw [pastWord, hnext, h.ahead_eq, hleading, hdrop, hafter]

/-- A word that follows blanks and is followed by an edge is the word that comes next. -/
theorem nextWord_of_ahead_eq {cursor : Cursor} {blanks word rest : List Char}
    (hahead : cursor.ahead = blanks ++ (word ++ rest)) (hblanks : ∀ c ∈ blanks, isBlank c = true)
    (hword : IsWord word) (hne : word ≠ []) (hedge : startsAtEdge rest = true) :
    cursor.nextWord = word ∧ cursor.pastWord = cursor.advance (blanks ++ word) rest := by
  have hstarts := isBlank_eq_false_of_mem_head?_append hword hne rest
  exact ComesNext.nextWord_eq ⟨hahead, hblanks, hstarts, hword, hedge⟩

/-- A literal is taken exactly if it is the word that comes next. -/
theorem consume?_eq_some_iff {cursor next : Cursor} {token : String}
    (hne : token ≠ "") (hword : IsWord token.toList) :
    cursor.consume? token = some next ↔
      cursor.nextWord = token.toList ∧ next = cursor.pastWord := by
  rw [consume?]
  constructor
  · intro h
    split at h
    · cases h
    · next rest hafter =>
        have htext := after?_eq_some_iff.mp hafter
        split at h
        · next hfits =>
            have hedge := (Bool.and_eq_true_iff.mp hfits).2
            obtain rfl := Option.some.inj h
            have hnext : cursor.nextWord = token.toList :=
              (leadingWord_eq_iff hword).mpr ⟨rest, htext, hedge⟩
            refine ⟨hnext, ?_⟩
            rw [pastWord, hnext, htext, (leadingWord_append hword hedge).2]
        · cases h
  · rintro ⟨hnext, rfl⟩
    obtain ⟨rest, htext, hedge⟩ := (leadingWord_eq_iff hword).mp hnext
    rw [pastWord, hnext]
    simp [htext, hedge, (leadingWord_append hword hedge).2, hne]

theorem consume?_eq_none_iff {cursor : Cursor} {token : String}
    (hne : token ≠ "") (hword : IsWord token.toList) :
    cursor.consume? token = none ↔ cursor.nextWord ≠ token.toList := by
  rw [Option.eq_none_iff_forall_ne_some]
  constructor
  · intro h hleading
    exact h _ ((consume?_eq_some_iff hne hword).mpr ⟨hleading, rfl⟩)
  · intro h next hnext
    exact h ((consume?_eq_some_iff hne hword).mp hnext).1

/-- A literal with which a line ends is taken, and leads to the end. -/
theorem consume?_eq_toEnd {cursor : Cursor} {blanks : List Char} {token : String}
    (hahead : cursor.ahead = blanks ++ token.toList) (hblanks : ∀ c ∈ blanks, isBlank c = true)
    (hne : token ≠ "") (hword : IsWord token.toList) :
    cursor.nextWord = token.toList ∧ cursor.consume? token = some cursor.toEnd := by
  have hsplit : cursor.ahead = blanks ++ (token.toList ++ []) := by
    rw [List.append_nil, hahead]
  obtain ⟨hnext, hpast⟩ := nextWord_of_ahead_eq hsplit hblanks hword (by simpa using hne) rfl
  refine ⟨hnext, (consume?_eq_some_iff hne hword).mpr ⟨hnext, ?_⟩⟩
  rw [hpast, toEnd, hahead]

end Cursor

end CommandTree
