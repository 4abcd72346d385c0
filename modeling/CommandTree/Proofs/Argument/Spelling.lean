import CommandTree.Proofs.Argument.Token
import CommandTree.Proofs.Text.Offset

/-!
# How texts are written

A text can be written between double quotes, if it holds none itself, or as a word, if it is
not to be taken for a text in quotes (`Token.Spells`).  What is read is exactly what is
written so: everything that is written is read back, and nothing else is read
(`TextType.reads_what_is_spelled`).
-/

namespace CommandTree

open Text

namespace Text

theorem dropBlanks_eq_nil_iff {text : List Char} :
    dropBlanks text = [] ↔ ∀ c ∈ text, isBlank c = true := by
  rw [dropBlanks, List.dropWhile_eq_nil_iff]

end Text

namespace Token

/-- The value is what is written by `taken`, where the text goes on with `rest`. -/
inductive Spells : (value taken rest : List Char) → Prop where
  /-- A text without double quotes can be put between two of them. -/
  | quoted {value : List Char} (rest : List Char) (hvalue : '"' ∉ value) :
      Spells value ('"' :: (value ++ ['"'])) rest
  /-- A word stands for itself where an edge follows.  A double quote at its beginning must
  not be closed, be it in the word or after it. -/
  | word {value rest : List Char} (hne : value ≠ []) (hword : IsWord value)
      (hopen : ¬ IsQuoted value) (hedge : startsAtEdge rest = true)
      (hlone : value.head? = some '"' → '"' ∉ rest) :
      Spells value value rest

namespace Spells

variable {value taken rest : List Char}

theorem taken_ne_nil (h : Spells value taken rest) : taken ≠ [] := by
  cases h with
  | quoted _ hvalue => exact List.cons_ne_nil _ _
  | word hne => exact hne

/-- What is written does not begin with a blank. -/
theorem isBlank_eq_false_of_mem_head? (h : Spells value taken rest) {c : Char}
    (hc : c ∈ (taken ++ rest).head?) : isBlank c = false := by
  cases h with
  | quoted _ hvalue =>
      obtain rfl : '"' = c := Option.some.inj hc
      decide
  | word hne hword =>
      exact isBlank_eq_false_of_mem_head?_append hword hne _ c hc

/-- A value that can be written holds no double quotes, or it is a word that is not to be taken
for a text in quotes. -/
theorem quoteless_or_word {value : String} (h : Spells value.toList taken rest) :
    '"' ∉ value.toList ∨
      (value ≠ "" ∧ IsWord value.toList ∧ ¬ IsQuoted value.toList) := by
  generalize hchars : value.toList = chars at h
  cases h with
  | quoted _ hvalue => exact .inl hvalue
  | word hne hword hopen =>
      refine .inr ⟨?_, hword, hopen⟩
      rintro rfl
      exact hne hchars.symm

end Spells

/-- Such a value can be written at the end of a line. -/
theorem exists_spells {value : String}
    (h : '"' ∉ value.toList ∨
      (value ≠ "" ∧ IsWord value.toList ∧ ¬ IsQuoted value.toList)) :
    ∃ taken, Spells value.toList taken [] := by
  rcases h with hvalue | ⟨hne, hword, hopen⟩
  · exact ⟨_, .quoted [] hvalue⟩
  · have hchars : value.toList ≠ [] := by simpa using hne
    exact ⟨_, .word hchars hword hopen rfl fun _ => List.not_mem_nil⟩

theorem scan?_quoted {value : List Char} (hvalue : '"' ∉ value) (rest : List Char) :
    scan? ('"' :: (value ++ '"' :: rest)) =
      some { value, taken := '"' :: (value ++ ['"']), rest } := by
  have hspan : '"' = '"' ∧ '"' ∈ value ++ '"' :: rest := ⟨rfl, by simp⟩
  have hall : ∀ c ∈ value, (c != '"') = true := by
    intro c hc
    rw [bne_iff_ne]
    rintro rfl
    exact hvalue hc
  have hends : ∀ c ∈ ('"' :: rest).head?, (c != '"') = false := by
    intro c hc
    obtain rfl : '"' = c := Option.some.inj hc
    rfl
  obtain ⟨htake, hdrop⟩ := takeWhile_append_of_head? hall hends
  rw [scan?, if_pos hspan, htake, hdrop]
  rfl

/-- What is written is read back. -/
theorem Spells.scan?_eq {value taken rest : List Char} (h : Spells value taken rest) :
    scan? (taken ++ rest) = some { value, taken, rest } := by
  cases h with
  | quoted _ hvalue => simpa using scan?_quoted hvalue rest
  | word hne hword hopen hedge hlone =>
      have hopen' : ¬ IsQuoted (value ++ rest) := by
        obtain ⟨c, later, rfl⟩ := List.exists_cons_of_ne_nil hne
        rintro ⟨rfl, hclosed⟩
        rcases List.mem_append.mp hclosed with hinside | hafter
        · exact hopen ⟨rfl, hinside⟩
        · exact hlone rfl hafter
      obtain ⟨hfirst, hafter⟩ := leadingWord_append hword hedge
      rw [scan?_of_not_isQuoted (List.append_ne_nil_of_left_ne_nil hne rest) hopen', bare, hfirst,
        hafter]

/-- What is read from a text that does not begin with a blank is written there. -/
theorem spells_of_scan? {text : List Char} {token : Token}
    (hstart : ∀ c ∈ text.head?, isBlank c = false) (h : scan? text = some token) :
    Spells token.value token.taken token.rest := by
  have hne : text ≠ [] := by
    rintro rfl
    simp [scan?] at h
  obtain ⟨c, later, rfl⟩ := List.exists_cons_of_ne_nil hne
  by_cases hquoted : IsQuoted (c :: later)
  · have hvalue := quote_not_mem_value_scan? hquoted (congrArg (Option.map Token.value) h)
    have hspan : c = '"' ∧ '"' ∈ later := hquoted
    rw [scan?, if_pos hspan] at h
    obtain rfl := Option.some.inj h
    exact .quoted _ hvalue
  · rw [scan?_of_not_isQuoted hne hquoted] at h
    obtain rfl := Option.some.inj h
    have hc := hstart c rfl
    have hword := leadingWord_cons hc later
    have hafter : afterWord (c :: later) = afterWord later := by simp [afterWord, hc]
    have hsplit := leadingWord_append_afterWord later
    rw [bare, hword, hafter]
    apply Spells.word (List.cons_ne_nil c _)
    · intro d hd
      rw [← hword] at hd
      exact isBlank_eq_false_of_mem_leadingWord hd
    · rintro ⟨rfl, hclosed⟩
      exact hquoted ⟨rfl, hsplit ▸ List.mem_append_left _ hclosed⟩
    · exact startsAtEdge_afterWord later
    · intro hfirst hclosed
      obtain rfl : c = '"' := Option.some.inj hfirst
      exact hquoted ⟨rfl, hsplit ▸ List.mem_append_right _ hclosed⟩

end Token

namespace TextType

theorem check_unrestricted (commands : List String) (value : String) :
    ({} : TextType).check commands value = none := by
  simp [check, checkLength]

/-- A type without restrictions reads the token that comes next after the blanks, if there is
anything but blanks. -/
theorem read_unrestricted_cases (commands : List String) (context : Context) :
    ((∀ c ∈ context.cursor.ahead, isBlank c = true) ∧
      ({} : TextType).read commands context = .refused context []) ∨
    ∃ text taken rest, ¬ (∀ c ∈ context.cursor.ahead, isBlank c = true) ∧
      Token.Spells text.toList taken rest ∧
      context.cursor.ahead = leadingBlanks context.cursor.ahead ++ (taken ++ rest) ∧
      ({} : TextType).read commands context =
        .accepted context (.text text)
          (context.cursor.advance (leadingBlanks context.cursor.ahead ++ taken) rest) := by
  by_cases hnone : dropBlanks context.cursor.ahead = []
  · refine .inl ⟨dropBlanks_eq_nil_iff.mp hnone, ?_⟩
    exact read_of_scan?_eq_none (Token.scan?_eq_none_iff.mpr hnone)
  · obtain ⟨token, hscan⟩ := Token.exists_scan? hnone
    have hspells := Token.spells_of_scan?
      (fun c hc => isBlank_eq_false_of_mem_head?_dropBlanks hc) hscan
    refine .inr ⟨String.ofList token.value, token.taken, token.rest,
      mt dropBlanks_eq_nil_iff.mpr hnone, ?_, ?_, ?_⟩
    · rw [String.toList_ofList]
      exact hspells
    · rw [Token.taken_append_rest_of_scan? hscan, leadingBlanks_append_dropBlanks]
    · exact read_of_scan?_of_check_eq_none hscan (check_unrestricted _ _)

/-- What is written after blanks is read back, and what follows is left over. -/
theorem read_of_spells (commands : List String) {context : Context} {blanks taken rest : List Char}
    {value : String} (hblanks : ∀ c ∈ blanks, isBlank c = true)
    (hspells : Token.Spells value.toList taken rest)
    (hahead : context.cursor.ahead = blanks ++ (taken ++ rest)) :
    ({} : TextType).read commands context =
      .accepted context (.text value) (context.cursor.advance (blanks ++ taken) rest) := by
  obtain ⟨hleading, hdrop⟩ := leadingBlanks_append hblanks
    fun c hc => hspells.isBlank_eq_false_of_mem_head? hc
  have hscan : Token.scan? (dropBlanks context.cursor.ahead) =
      some { value := value.toList, taken, rest } := by
    rw [hahead, hdrop, hspells.scan?_eq]
  have hread := read_of_scan?_of_check_eq_none hscan (check_unrestricted commands _)
  rw [hahead, hleading, String.ofList_toList] at hread
  exact hread

/-- A type without restrictions reads exactly what is written.  Wherever a value is written
after blanks, it is read back and what follows is left over.  Whatever is read is written
there, so that the values that can be read at all are the texts without double quotes, and
the words that do not begin with a double quote and hold another one.  Nothing is read, and
nothing reported, exactly where nothing but blanks is left; otherwise the cursor moves past
the blanks and further. -/
theorem reads_what_is_spelled (commands : List String) :
    let read := ({} : TextType).read commands
    (∀ (context : Context) (blanks taken rest : List Char) (value : String),
      (∀ c ∈ blanks, isBlank c = true) → Token.Spells value.toList taken rest →
      context.cursor.ahead = blanks ++ (taken ++ rest) →
        read context =
          .accepted context (.text value) (context.cursor.advance (blanks ++ taken) rest)) ∧
    (∀ context value, (read context).value? = some value → ∃ text blanks taken rest,
      value = .text text ∧ (∀ c ∈ blanks, isBlank c = true) ∧
      Token.Spells text.toList taken rest ∧
      context.cursor.ahead = blanks ++ (taken ++ rest)) ∧
    (∀ value : String, (∃ context, (read context).value? = some (.text value)) ↔
      '"' ∉ value.toList ∨ (value ≠ "" ∧ IsWord value.toList ∧ ¬ IsQuoted value.toList)) ∧
    ∀ context,
      ((read context).value? = none ↔ ∀ c ∈ context.cursor.ahead, isBlank c = true) ∧
      ((read context).value? = none → read context = .refused context []) ∧
      ((read context).value?.isSome = true →
        context.cursor.offset + context.cursor.blankWidth <
          (read context).context.cursor.offset) := by
  intro read
  refine ⟨?_, ?_, ?_, ?_⟩
  · intro context blanks taken rest value hblanks hspells hahead
    exact read_of_spells commands hblanks hspells hahead
  · intro context value hvalue
    rcases read_unrestricted_cases commands context with
      ⟨-, hread⟩ | ⟨text, taken, rest, -, hspells, hahead, hread⟩
    · simp [read, hread, Reading.refused] at hvalue
    · have htext : value = .text text := by simpa [read, hread, Reading.accepted] using hvalue.symm
      exact ⟨text, leadingBlanks context.cursor.ahead, taken, rest, htext,
        fun c hc => List.mem_takeWhile_imp hc, hspells, hahead⟩
  · intro value
    constructor
    · rintro ⟨context, hvalue⟩
      rcases read_unrestricted_cases commands context with
        ⟨-, hread⟩ | ⟨text, taken, rest, -, hspells, -, hread⟩
      · simp [read, hread, Reading.refused] at hvalue
      · obtain rfl : text = value := by simpa [read, hread, Reading.accepted] using hvalue
        exact hspells.quoteless_or_word
    · intro hvalue
      obtain ⟨taken, hspells⟩ := Token.exists_spells hvalue
      let context : Context := { cursor := .start taken }
      have hahead : context.cursor.ahead = [] ++ (taken ++ []) := (List.append_nil taken).symm
      have hread := read_of_spells commands (List.forall_mem_nil _) hspells hahead
      exact ⟨_, congrArg Reading.value? hread⟩
  · intro context
    rcases read_unrestricted_cases commands context with
      ⟨hblank, hread⟩ | ⟨text, taken, rest, hsolid, hspells, -, hread⟩
    · refine ⟨?_, fun _ => hread, ?_⟩
      · simp only [read, hread]
        exact iff_of_true rfl hblank
      · simp [read, hread, Reading.refused]
    · have hsome : (read context).value? ≠ none := by simp [read, hread, Reading.accepted]
      refine ⟨iff_of_false hsome hsolid, fun hnone => absurd hnone hsome, fun _ => ?_⟩
      have hwidth : 0 < width taken := by
        rw [Nat.pos_iff_ne_zero, ne_eq, width_eq_zero_iff]
        exact hspells.taken_ne_nil
      simp only [read, hread, Reading.accepted, Context.moveTo, Cursor.advance, Cursor.offset,
        Cursor.blankWidth, width_append]
      omega

/-- A text in quotes is read up to the second quote, also where no blank follows, and a word
that begins with a quote is read as it stands where no other quote follows. -/
theorem reads_what_is_spelled_with_quotes :
    let blanks := " \u3000".toList
    let quoted := "\"foo bar\"".toList
    let line := Cursor.start (blanks ++ (quoted ++ "é\"".toList))
    let later : Cursor := ⟨"say".toList, " \"hé ho".toList⟩
    (∀ c ∈ blanks, isBlank c = true) ∧
    Token.Spells "foo bar".toList quoted "é\"".toList ∧
    ({} : TextType).read [] { cursor := line } =
      .accepted { cursor := line } (.text "foo bar") ⟨blanks ++ quoted, "é\"".toList⟩ ∧
    Token.Spells "\"hé".toList "\"hé".toList " ho".toList ∧
    ({} : TextType).read [] { cursor := later } =
      .accepted { cursor := later } (.text "\"hé") ⟨"say \"hé".toList, " ho".toList⟩ := by
  intro blanks quoted line later
  have hblanks : ∀ c ∈ blanks, isBlank c = true := List.all_eq_true.mp rfl
  have hspace : ∀ c ∈ [' '], isBlank c = true := List.all_eq_true.mp rfl
  have hquoted : Token.Spells "foo bar".toList quoted "é\"".toList :=
    .quoted _ (by decide)
  have hword : Token.Spells "\"hé".toList "\"hé".toList " ho".toList :=
    .word (by decide) (by decide) (by decide) (by decide) (by decide)
  obtain ⟨hread, -⟩ := reads_what_is_spelled []
  exact ⟨hblanks, hquoted, hread _ blanks quoted _ _ hblanks hquoted rfl, hword,
    hread _ [' '] _ _ _ hspace hword rfl⟩

end TextType

end CommandTree
