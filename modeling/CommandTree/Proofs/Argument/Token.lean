import CommandTree.Argument.Text
import CommandTree.Proofs.Text.Word

/-!
# Tokens of text arguments

A word by itself is read as it stands, unless it begins with a double quote and holds
another one.  What is read between quotes holds none.

What a type of texts makes of a line depends on the text that comes next: there may be
none, or the type refuses it for one reason, or it is the value.
-/

namespace CommandTree

open Text

/-- The text begins with a double quote that is closed by a later one. -/
def Text.IsQuoted : List Char → Prop
  | [] => False
  | c :: later => c = '"' ∧ '"' ∈ later

instance (text : List Char) : Decidable (Text.IsQuoted text) := by
  cases text with
  | nil => exact inferInstanceAs (Decidable False)
  | cons c later => exact inferInstanceAs (Decidable (c = '"' ∧ '"' ∈ later))

theorem Text.head?_of_isQuoted {text : List Char} (hquoted : IsQuoted text) :
    text.head? = some '"' := by
  cases text with
  | nil => exact hquoted.elim
  | cons c later => exact congrArg some hquoted.1

namespace Token

theorem scan?_eq_none_iff {text : List Char} : scan? text = none ↔ text = [] := by
  cases text with
  | nil => simp [scan?]
  | cons c later =>
      rw [scan?]
      split <;> simp

theorem exists_scan? {text : List Char} (hne : text ≠ []) :
    ∃ token, scan? text = some token := by
  apply Option.ne_none_iff_exists'.mp
  intro hnone
  exact hne (scan?_eq_none_iff.mp hnone)

theorem scan?_of_not_isQuoted {text : List Char} (hne : text ≠ [])
    (hopen : ¬ IsQuoted text) : scan? text = some (bare text) := by
  cases text with
  | nil => exact absurd rfl hne
  | cons c later =>
      have hword : ¬ (c = '"' ∧ '"' ∈ later) := hopen
      rw [scan?, if_neg hword]

/-- A word by itself is read as it stands. -/
theorem value_scan?_of_isWord {word : List Char} (hne : word ≠ []) (hword : IsWord word)
    (hopen : ¬ IsQuoted word) : (scan? word).map Token.value = some word := by
  rw [scan?_of_not_isQuoted hne hopen, Option.map_some, bare, leadingWord_of_isWord hword]

/-- What is read between double quotes holds none. -/
theorem quote_not_mem_value_scan? {text value : List Char} (hquoted : IsQuoted text)
    (hvalue : (scan? text).map Token.value = some value) : '"' ∉ value := by
  cases text with
  | nil => exact hquoted.elim
  | cons c later =>
      have hspan : c = '"' ∧ '"' ∈ later := hquoted
      rw [scan?, if_pos hspan] at hvalue
      obtain rfl := Option.some.inj hvalue
      intro hmem
      simpa using List.mem_takeWhile_imp hmem

/-- A word is read back, unless it begins with a double quote that is closed within it.  Then
what is read has no quotes. -/
theorem text_scan?_of_isWord {word : String} (hne : word ≠ "") (hword : IsWord word.toList) :
    let text? := (scan? word.toList).map fun token => String.ofList token.value
    (¬ IsQuoted word.toList → text? = some word) ∧
      (IsQuoted word.toList → ∃ text, text? = some text ∧ '"' ∉ text.toList) := by
  intro text?
  have hchars : word.toList ≠ [] := by simpa using hne
  constructor
  · intro hopen
    have hvalue := value_scan?_of_isWord hchars hword hopen
    simpa [text?, Function.comp_def] using congrArg (Option.map String.ofList) hvalue
  · intro hquoted
    obtain ⟨token, hscan⟩ := exists_scan? hchars
    refine ⟨String.ofList token.value, by simp [text?, hscan], ?_⟩
    rw [String.toList_ofList]
    exact quote_not_mem_value_scan? hquoted (congrArg (Option.map Token.value) hscan)

end Token

/-- The text that comes next, after any blanks, without the quotes around it. -/
def Cursor.nextText? (cursor : Cursor) : Option String :=
  (Token.scan? (dropBlanks cursor.ahead)).map fun token => String.ofList token.value

/-- What is read after a word and a space, if another word is all that follows. -/
theorem Cursor.nextText?_pastWord {cursor : Cursor} {word later : List Char}
    (hahead : cursor.ahead = word ++ ' ' :: later) (hword : IsWord word) (hne : word ≠ [])
    (hlater : IsWord later) :
    cursor.nextWord = word ∧
      cursor.pastWord.nextText? =
        (Token.scan? later).map fun token => String.ofList token.value := by
  have hsplit : cursor.ahead = [] ++ (word ++ ' ' :: later) := hahead
  obtain ⟨hnext, hpast⟩ := nextWord_of_ahead_eq hsplit (by simp) hword hne rfl
  refine ⟨hnext, ?_⟩
  have hblanks : dropBlanks (' ' :: later) = later := dropBlanks_of_isWord hlater
  rw [nextText?, hpast, advance, hblanks]

theorem Cursor.nextText?_of_atEnd {cursor : Cursor} (hend : cursor.atEnd = true) :
    cursor.nextText? = none := by
  have hahead : cursor.ahead = [] := List.isEmpty_iff.mp hend
  simp [nextText?, hahead, dropBlanks, Token.scan?]

namespace TextType

variable {type : TextType} {commands : List String} {context : Context} {token : Token}
  {text : String}

theorem read_of_scan?_eq_none (hscan : Token.scan? (dropBlanks context.cursor.ahead) = none) :
    type.read commands context = .refused context [] := by
  simp only [read, hscan]

theorem read_of_scan?_of_check_eq_some {diagnostic : Diagnostic}
    (hscan : Token.scan? (dropBlanks context.cursor.ahead) = some token)
    (hcheck : type.check commands (String.ofList token.value) = some diagnostic) :
    type.read commands context = .refused context [diagnostic] := by
  simp only [read, hscan, hcheck]

theorem read_of_scan?_of_check_eq_none
    (hscan : Token.scan? (dropBlanks context.cursor.ahead) = some token)
    (hcheck : type.check commands (String.ofList token.value) = none) :
    type.read commands context =
      .accepted context (.text (String.ofList token.value))
        (context.cursor.advance (leadingBlanks context.cursor.ahead ++ token.taken)
          token.rest) := by
  simp only [read, hscan, hcheck]

theorem read_of_nextText?_eq_none (hnone : context.cursor.nextText? = none) :
    type.read commands context = .refused context [] :=
  read_of_scan?_eq_none (Option.map_eq_none_iff.mp hnone)

theorem read_of_check_eq_some {diagnostic : Diagnostic}
    (htext : context.cursor.nextText? = some text)
    (hcheck : type.check commands text = some diagnostic) :
    type.read commands context = .refused context [diagnostic] := by
  obtain ⟨token, hscan, rfl⟩ := Option.map_eq_some_iff.mp htext
  exact read_of_scan?_of_check_eq_some hscan hcheck

theorem read_of_check_eq_none (htext : context.cursor.nextText? = some text)
    (hcheck : type.check commands text = none) :
    ∃ cursor, type.read commands context = .accepted context (.text text) cursor := by
  obtain ⟨token, hscan, rfl⟩ := Option.map_eq_some_iff.mp htext
  exact ⟨_, read_of_scan?_of_check_eq_none hscan hcheck⟩

end TextType

end CommandTree
