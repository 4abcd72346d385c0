import CommandTree.Probe
import CommandTree.Proofs.Argument.Spelling

/-!
# Words at a cursor

Literals and texts agree on what a word is.  After the blanks at a cursor comes a word, which
goes on to the next blank.  A literal is taken if it is this word, so at most one can be.  A
text argument without restrictions reads this word and moves to the same place, unless a double
quote begins it and another one is ahead (`literals_and_texts_agree`).
-/

namespace CommandTree

open Text

/-! ## Words that begin with a quote -/

namespace Cursor

variable {cursor : Cursor}

/-- The text after the blanks is in quotes if a quote begins the word and there is another. -/
theorem isQuoted_dropBlanks_iff :
    IsQuoted (dropBlanks cursor.ahead) ↔
      cursor.nextWord.head? = some '"' ∧ 2 ≤ cursor.ahead.count '"' := by
  have hcount : cursor.ahead.count '"' = (dropBlanks cursor.ahead).count '"' := by
    have hblanks : (leadingBlanks cursor.ahead).count '"' = 0 := by
      rw [List.count_eq_zero]
      intro hmem
      exact absurd (List.mem_takeWhile_imp hmem) (by decide)
    calc
      cursor.ahead.count '"' =
          (leadingBlanks cursor.ahead ++ dropBlanks cursor.ahead).count '"' := by
        rw [leadingBlanks_append_dropBlanks]
      _ = (dropBlanks cursor.ahead).count '"' := by
        rw [List.count_append, hblanks, Nat.zero_add]
  rw [hcount]
  cases hdrop : dropBlanks cursor.ahead with
  | nil => simp [IsQuoted]
  | cons c later =>
      rw [nextWord_of_dropBlanks_eq_cons hdrop, List.head?_cons, Option.some_inj]
      apply and_congr_right
      rintro rfl
      rw [List.count_cons_self, Nat.succ_le_succ_iff, List.one_le_count_iff]

end Cursor

/-! ## Taking it -/

namespace Probe

variable {dispatcher : Dispatcher Action} {depth : Nat} {context : Context} {token : String}

/-- A literal is taken if it is the word that comes next, and otherwise nothing changes. -/
theorem perform_consume (hne : token ≠ "") (hword : IsWord token.toList) :
    (token.toList = context.cursor.nextWord →
      perform dispatcher depth context (.consume token) =
        { answer := .flag true, context := context.moveTo context.cursor.pastWord }) ∧
    (token.toList ≠ context.cursor.nextWord →
      perform dispatcher depth context (.consume token) = { answer := .flag false, context }) := by
  constructor
  · intro hnext
    rw [perform, (Cursor.consume?_eq_some_iff hne hword).mpr ⟨hnext.symm, rfl⟩]
  · intro hnext
    rw [perform, (Cursor.consume?_eq_none_iff hne hword).mpr hnext.symm]

/-- A text without restrictions is the token that comes next. -/
theorem perform_read_of_scan?_eq_some {token : Token}
    (hscan : Token.scan? (dropBlanks context.cursor.ahead) = some token) :
    perform dispatcher depth context (.read (.text {})) =
      { answer := .value (some (.text (String.ofList token.value)))
        context := context.moveTo
          (context.cursor.advance (leadingBlanks context.cursor.ahead ++ token.taken)
            token.rest) } := by
  have hread := TextType.read_of_scan?_of_check_eq_none hscan
    (TextType.check_unrestricted dispatcher.commands _)
  simp [perform, ArgumentType.read, hread, Reading.accepted, noticesOf]

theorem perform_read_of_scan?_eq_none
    (hscan : Token.scan? (dropBlanks context.cursor.ahead) = none) :
    perform dispatcher depth context (.read (.text {})) =
      { answer := .value none, context } := by
  simp [perform, ArgumentType.read, TextType.read_of_scan?_eq_none hscan, Reading.refused,
    noticesOf]

/-- A text that is not in quotes is the word that comes next. -/
theorem perform_read_of_not_isQuoted (hne : context.cursor.nextWord ≠ [])
    (hopen : ¬ IsQuoted (dropBlanks context.cursor.ahead)) :
    perform dispatcher depth context (.read (.text {})) =
      { answer := .value (some (.text (String.ofList context.cursor.nextWord)))
        context := context.moveTo context.cursor.pastWord } := by
  have hscan : Token.scan? (dropBlanks context.cursor.ahead) =
      some (.bare (dropBlanks context.cursor.ahead)) :=
    Token.scan?_of_not_isQuoted (mt Cursor.nextWord_eq_nil_iff.mpr hne) hopen
  rw [perform_read_of_scan?_eq_some hscan]
  rfl

/-- A text in quotes has none inside. -/
theorem exists_perform_read_of_isQuoted (hquoted : IsQuoted (dropBlanks context.cursor.ahead)) :
    ∃ text, '"' ∉ text.toList ∧
      (perform dispatcher depth context (.read (.text {}))).answer =
        .value (some (.text text)) := by
  have hne : dropBlanks context.cursor.ahead ≠ [] := by
    intro hnil
    rw [hnil] at hquoted
    exact hquoted
  obtain ⟨token, hscan⟩ := Token.exists_scan? hne
  refine ⟨String.ofList token.value, ?_, ?_⟩
  · rw [String.toList_ofList]
    exact Token.quote_not_mem_value_scan? hquoted (congrArg (Option.map Token.value) hscan)
  · rw [perform_read_of_scan?_eq_some hscan]

/-- At each cursor there is one word, which may be empty.  A literal is taken exactly if it is
this word, and then the cursor moves to the end of the word; if not, nothing changes.  So no two
literals can be taken.  A text without restrictions is this word, too, and the cursor moves to
the same place, unless there is no word, and nothing to be read either, or a double quote begins
it and there is another one ahead. -/
theorem literals_and_texts_agree (dispatcher : Dispatcher Action) (depth : Nat)
    (context : Context) :
    let word := context.cursor.nextWord
    let past := context.moveTo context.cursor.pastWord
    let consume (token : String) := perform dispatcher depth context (.consume token)
    let read := perform dispatcher depth context (.read (.text {}))
    let quoted := word.head? = some '"' ∧ 2 ≤ context.cursor.ahead.count '"'
    (∃ blanks rest, context.cursor.ComesNext blanks word rest) ∧
    (∀ blanks next rest, context.cursor.ComesNext blanks next rest →
      word = next ∧ past = context.moveTo (context.cursor.advance (blanks ++ next) rest)) ∧
    (∀ token, token ≠ "" → IsWord token.toList →
      (token.toList = word → consume token = { answer := .flag true, context := past }) ∧
      (token.toList ≠ word → consume token = { answer := .flag false, context })) ∧
    (∀ token other, token ≠ "" → IsWord token.toList → other ≠ "" → IsWord other.toList →
      (consume token).answer = .flag true → (consume other).answer = .flag true →
      token = other) ∧
    (word = [] → read = { answer := .value none, context }) ∧
    (word ≠ [] → ¬ quoted →
      read = { answer := .value (some (.text (String.ofList word))), context := past } ∧
      consume (String.ofList word) = { answer := .flag true, context := past }) ∧
    (quoted → ∃ text, '"' ∉ text.toList ∧ read.answer = .value (some (.text text))) := by
  intro word past consume read quoted
  have htaken : ∀ token, token ≠ "" → IsWord token.toList →
      (consume token).answer = .flag true → token.toList = word := by
    intro token hne hword hanswer
    by_contra hother
    rw [show consume token = _ from (perform_consume hne hword).2 hother] at hanswer
    simp at hanswer
  refine ⟨⟨_, _, context.cursor.comesNext_nextWord⟩, ?_,
    fun token hne hword => perform_consume hne hword, ?_, ?_, ?_, ?_⟩
  · intro blanks next rest hnext
    obtain ⟨hword, hpast⟩ := hnext.nextWord_eq
    exact ⟨hword, congrArg context.moveTo hpast⟩
  · intro token other hne hword hne' hword' hanswer hanswer'
    have hsame := (htaken token hne hword hanswer).trans (htaken other hne' hword' hanswer').symm
    exact String.toList_inj.mp hsame
  · intro hnone
    apply perform_read_of_scan?_eq_none
    rw [Token.scan?_eq_none_iff, ← Cursor.nextWord_eq_nil_iff]
    exact hnone
  · intro hne hopen
    refine ⟨perform_read_of_not_isQuoted hne (mt Cursor.isQuoted_dropBlanks_iff.mp hopen), ?_⟩
    have hword : IsWord word := fun c hc => isBlank_eq_false_of_mem_leadingWord hc
    apply (perform_consume _ _).1
    · exact String.toList_ofList
    · simpa using hne
    · rw [String.toList_ofList]
      exact hword
  · intro hquoted
    exact exists_perform_read_of_isQuoted (Cursor.isQuoted_dropBlanks_iff.mpr hquoted)

/-- A word that begins with a quote is taken and read as it stands where no other quote is
ahead, and a word that it begins with is not taken.  Where there is another quote, something
else is read. -/
theorem literals_and_texts_agree_on_lone_quote :
    let dispatcher : Dispatcher Action := { linePrefix := "/" }
    let lone : Context := .start "\u3000\"ab c"
    let past : Context := { cursor := ⟨"\u3000\"ab".toList, " c".toList⟩ }
    let closed : Context := .start "\u3000\"ab c\""
    perform dispatcher 0 lone (.consume "\"ab") = { answer := .flag true, context := past } ∧
    perform dispatcher 0 lone (.read (.text {})) =
      { answer := .value (some (.text "\"ab")), context := past } ∧
    perform dispatcher 0 lone (.consume "\"a") = { answer := .flag false, context := lone } ∧
    perform dispatcher 0 closed (.consume "\"ab") =
      { answer := .flag true, context := past.moveTo ⟨"\u3000\"ab".toList, " c\"".toList⟩ } ∧
    ∃ text, '"' ∉ text.toList ∧
      (perform dispatcher 0 closed (.read (.text {}))).answer = .value (some (.text text)) := by
  intro dispatcher lone past closed
  have hlone : lone.cursor.nextWord = "\"ab".toList := by decide
  have hclosed : closed.cursor.nextWord = "\"ab".toList := by decide
  obtain ⟨-, -, hlonely, -, -, hopen, -⟩ := literals_and_texts_agree dispatcher 0 lone
  obtain ⟨-, -, hshut, -, -, -, hquoted⟩ := literals_and_texts_agree dispatcher 0 closed
  obtain ⟨hread, hconsume⟩ := hopen (by simp [hlone]) (by decide)
  rw [hlone, String.ofList_toList] at hread hconsume
  obtain ⟨-, hother⟩ := hlonely "\"a" (by decide) (by decide)
  obtain ⟨htaken, -⟩ := hshut "\"ab" (by decide) (by decide)
  exact ⟨hconsume, hread, hother (by decide), htaken hclosed.symm, hquoted (by decide)⟩

end Probe

end CommandTree
