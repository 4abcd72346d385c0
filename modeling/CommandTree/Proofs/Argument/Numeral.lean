import CommandTree.Proofs.Argument.Extract

/-!
# How numbers are written

A number is written in decimal digits, with any zeros before it (`IntegerType.IsNumeral`), and
these are all the runs of digits there are (`IntegerType.isNumeral_iff`).  A type of numbers
reads exactly the numerals whose numbers it admits (`IntegerType.reads_numerals`).
-/

namespace CommandTree

open Text

namespace IntegerType

/-! ## Numerals -/

/-- The digits by which a number is shown, with any zeros before them. -/
def IsNumeral (number : Nat) (digits : List Char) : Prop :=
  ∃ zeros, digits = List.replicate zeros '0' ++ (Value.integer number).display.toList

theorem toList_display (number : Nat) :
    (Value.integer number).display.toList = Nat.toDigits 10 number := by
  have hrepr : (Value.integer number).display = number.repr := rfl
  rw [hrepr, Nat.repr_eq_ofList_toDigits, String.toList_ofList]

theorem exists_digitChar_eq {c : Char} (hdigit : c.isDigit = true) :
    ∃ digit < 10, Nat.digitChar digit = c := by
  rw [isDigit_iff] at hdigit
  refine ⟨c.toNat - 48, by omega, ?_⟩
  rw [← Char.toNat_inj, Nat.toNat_digitChar_of_lt_ten (by omega)]
  omega

/-- Digits after those of a number other than zero are digits of a greater number. -/
theorem toDigits_append {digits : List Char} (hdigits : ∀ c ∈ digits, c.isDigit = true)
    {number : Nat} (hpos : 0 < number) :
    Nat.toDigits 10 number ++ digits =
      Nat.toDigits 10 (Nat.ofDigitChars 10 digits number) := by
  induction digits generalizing number with
  | nil => simp
  | cons c later ih =>
      obtain ⟨digit, hsmall, rfl⟩ := exists_digitChar_eq (hdigits c List.mem_cons_self)
      have hlater : ∀ d ∈ later, d.isDigit = true :=
        fun d hd => hdigits d (List.mem_cons_of_mem _ hd)
      have hnext : Nat.toDigits 10 number ++ [digit.digitChar] =
          Nat.toDigits 10 (10 * number + digit) := by
        rw [← Nat.toDigits_of_lt_base hsmall]
        exact Nat.toDigits_append_toDigits (by decide) hpos hsmall
      calc Nat.toDigits 10 number ++ digit.digitChar :: later
          = Nat.toDigits 10 (10 * number + digit) ++ later := by
            rw [← hnext, List.append_assoc, List.singleton_append]
        _ = Nat.toDigits 10 (Nat.ofDigitChars 10 later (10 * number + digit)) :=
            ih hlater (by omega)
        _ = Nat.toDigits 10 (Nat.ofDigitChars 10 (digit.digitChar :: later) number) := by
            rw [Nat.ofDigitChars_cons_digitChar_of_lt_ten hsmall]

/-- Every run of digits is a numeral. -/
theorem isNumeral_numberOf {digits : List Char} (hdigits : ∀ c ∈ digits, c.isDigit = true)
    (hne : digits ≠ []) : IsNumeral (numberOf digits) digits := by
  induction digits with
  | nil => exact absurd rfl hne
  | cons c later ih =>
      obtain ⟨digit, hsmall, rfl⟩ := exists_digitChar_eq (hdigits c List.mem_cons_self)
      have hlater : ∀ d ∈ later, d.isDigit = true :=
        fun d hd => hdigits d (List.mem_cons_of_mem _ hd)
      have hnumber : numberOf (digit.digitChar :: later) = Nat.ofDigitChars 10 later digit := by
        rw [numberOf, Nat.ofDigitChars_cons_digitChar_of_lt_ten hsmall]
        simp
      rcases Nat.eq_zero_or_pos digit with rfl | hpos
      · by_cases hlast : later = []
        · subst hlast
          exact ⟨0, rfl⟩
        · obtain ⟨zeros, hzeros⟩ := ih hlater hlast
          refine ⟨zeros + 1, ?_⟩
          rw [hnumber, List.replicate_succ, List.cons_append]
          exact congrArg (List.cons '0') hzeros
      · refine ⟨0, ?_⟩
        rw [hnumber, toList_display, ← toDigits_append hlater hpos,
          Nat.toDigits_of_lt_base hsmall]
        rfl

/-- The numerals of a number are the runs of digits that have it as their number. -/
theorem isNumeral_iff {number : Nat} {digits : List Char} :
    IsNumeral number digits ↔
      digits ≠ [] ∧ (∀ c ∈ digits, c.isDigit = true) ∧ numberOf digits = number := by
  constructor
  · rintro ⟨zeros, rfl⟩
    rw [toList_display]
    refine ⟨List.append_ne_nil_of_right_ne_nil _ Nat.toDigits_ne_nil, ?_, ?_⟩
    · intro c hc
      rcases List.mem_append.mp hc with hzero | hmem
      · obtain rfl := List.eq_of_mem_replicate hzero
        rfl
      · exact Nat.isDigit_of_mem_toDigits (by decide) le_rfl hmem
    · rw [numberOf, Nat.ofDigitChars_append, Nat.ofDigitChars_replicate_zero, Nat.mul_zero,
        Nat.ofDigitChars_ten_toDigits]
  · rintro ⟨hne, hdigits, rfl⟩
    exact isNumeral_numberOf hdigits hne

/-! ## Readings -/

/-- A text that is cut into blanks, digits and what does not go on with digits. -/
structure IsSplit (text blanks digits tail : List Char) : Prop where
  text_eq : text = blanks ++ (digits ++ tail)
  blanks : ∀ c ∈ blanks, isBlank c = true
  digits : ∀ c ∈ digits, c.isDigit = true
  tail : ∀ c ∈ tail.head?, c.isDigit = false

instance (text blanks digits tail : List Char) : Decidable (IsSplit text blanks digits tail) :=
  decidable_of_iff
    (text = blanks ++ (digits ++ tail) ∧ blanks.all isBlank ∧ digits.all Char.isDigit ∧
      tail.head?.all fun c => !c.isDigit)
    (by
      simp only [List.all_eq_true, Option.all_eq_true, Bool.not_eq_true']
      exact ⟨fun ⟨htext, hblanks, hdigits, htail⟩ => ⟨htext, hblanks, hdigits, htail⟩,
        fun ⟨htext, hblanks, hdigits, htail⟩ => ⟨htext, hblanks, hdigits, htail⟩⟩)

/-- Every text is cut where its blanks and the digits after them end. -/
theorem isSplit_leading (text : List Char) :
    IsSplit text (leadingBlanks text) (leadingDigits (dropBlanks text))
      (afterDigits (dropBlanks text)) where
  text_eq := by rw [leadingDigits_append_afterDigits, leadingBlanks_append_dropBlanks]
  blanks := fun _ hc => List.mem_takeWhile_imp hc
  digits := fun _ hc => List.mem_takeWhile_imp hc
  tail := fun _ hc => eq_false_of_mem_head?_dropWhile hc

/-- There is no other cut, except that blanks can be left to what follows if there are no
digits. -/
theorem IsSplit.leading_eq {text blanks digits tail : List Char}
    (h : IsSplit text blanks digits tail)
    (hedge : digits = [] → ∀ c ∈ tail.head?, isBlank c = false) :
    leadingBlanks text = blanks ∧ leadingDigits (dropBlanks text) = digits ∧
      afterDigits (dropBlanks text) = tail := by
  have hstart : ∀ c ∈ (digits ++ tail).head?, isBlank c = false := by
    intro c hc
    cases digits with
    | nil => exact hedge rfl c hc
    | cons d later =>
        obtain rfl : d = c := Option.some.inj hc
        rw [Bool.eq_false_iff]
        intro hblank
        have hdigit := h.digits d List.mem_cons_self
        rw [isDigit_eq_false_of_isBlank hblank] at hdigit
        cases hdigit
  obtain ⟨hleading, hdrop⟩ := leadingBlanks_append h.blanks hstart
  rw [h.text_eq, hdrop]
  exact ⟨hleading, takeWhile_append_of_head? h.digits h.tail⟩

variable {type : IntegerType} {context : Context} {blanks digits tail : List Char}

theorem read_of_unreadable (hsplit : IsSplit context.cursor.ahead blanks digits tail)
    (hedge : digits = [] → ∀ c ∈ tail.head?, isBlank c = false)
    (hunreadable : digits = [] ∨ largest < numberOf digits) :
    type.read context = .refused context [] := by
  obtain ⟨-, hdigits, -⟩ := hsplit.leading_eq hedge
  have hskip : (digits.isEmpty || decide (largest < numberOf digits)) = true := by
    simpa using hunreadable
  simp only [read, hdigits, hskip, if_true]

theorem read_of_readable (type : IntegerType)
    (hsplit : IsSplit context.cursor.ahead blanks digits tail) (hne : digits ≠ [])
    (hsmall : numberOf digits ≤ largest) :
    type.read context =
      (type.check (numberOf digits)).elim
        (.accepted context (.integer (numberOf digits))
          (context.cursor.advance (blanks ++ digits) tail))
        fun diagnostic => .refused context [diagnostic] := by
  obtain ⟨hleading, hdigits, hafter⟩ := hsplit.leading_eq fun hnil => absurd hnil hne
  have hread : ¬ (digits.isEmpty || decide (largest < numberOf digits)) = true := by
    simpa [hne] using hsmall
  simp only [read, hleading, hdigits, hafter, hread, Bool.false_eq_true, if_false]
  cases type.check (numberOf digits) <;> rfl

/-- Whatever is read is a numeral of a number that is admitted. -/
theorem exists_isNumeral_of_value? {value : Value}
    (hvalue : (type.read context).value? = some value) :
    ∃ (number : Nat) (blanks digits tail : List Char),
      value = .integer number ∧ type.Admits number ∧ IsNumeral number digits ∧
      IsSplit context.cursor.ahead blanks digits tail := by
  let text := dropBlanks context.cursor.ahead
  have hsplit := isSplit_leading context.cursor.ahead
  have hedge : leadingDigits text = [] → ∀ c ∈ (afterDigits text).head?, isBlank c = false := by
    intro hnone c hc
    have htext := leadingDigits_append_afterDigits text
    rw [hnone, List.nil_append] at htext
    rw [htext] at hc
    exact isBlank_eq_false_of_mem_head?_dropBlanks hc
  have hreadable : ¬ (leadingDigits text = [] ∨ largest < numberOf (leadingDigits text)) := by
    intro hunreadable
    rw [read_of_unreadable hsplit hedge hunreadable] at hvalue
    cases hvalue
  obtain ⟨hne, hsmall⟩ := not_or.mp hreadable
  have hnumber : value = .integer (numberOf (leadingDigits text)) := by
    rw [read_of_readable type hsplit hne (Nat.not_lt.mp hsmall)] at hvalue
    cases hcheck : type.check (numberOf (leadingDigits text)) with
    | none => simpa [text, hcheck, Reading.accepted] using hvalue.symm
    | some diagnostic => simp [text, hcheck, Reading.refused] at hvalue
  obtain ⟨number, hinteger, hadmits⟩ := exists_of_value? hvalue
  obtain rfl : number = numberOf (leadingDigits text) :=
    Value.integer.inj (hinteger.symm.trans hnumber)
  exact ⟨_, _, _, _, hnumber, hadmits, isNumeral_numberOf hsplit.digits hne, hsplit⟩

/-- A type of numbers reads numerals.  The digits that come next after the blanks are read as
their number, and what follows them is left over.  Where there are none, or their number is
larger than `2 ^ 63 - 1`, nothing is reported; a number that is out of bounds is refused
for that reason.  In each of these cases nothing changes.  (If there are no digits, it is
still assumed that all blanks were cut off.)  Whatever is read is a number that the type
admits, which is not negative, in decimal digits; and each such number is read back from the
digits by which it is shown, with any zeros before them. -/
theorem reads_numerals (type : IntegerType) :
    (∀ (context : Context) (blanks digits tail : List Char),
      IsSplit context.cursor.ahead blanks digits tail →
      (digits = [] → ∀ c ∈ tail.head?, isBlank c = false) →
      let number := numberOf digits
      let reading := type.read context
      (digits = [] ∨ 9223372036854775807 < number → reading = .refused context []) ∧
      (digits ≠ [] → number ≤ 9223372036854775807 →
        (∀ diagnostic, type.Rejects number diagnostic →
          reading = .refused context [diagnostic]) ∧
        ((∀ diagnostic, ¬ type.Rejects number diagnostic) →
          reading = .accepted context (.integer number)
            (context.cursor.advance (blanks ++ digits) tail)))) ∧
    (∀ context, (type.read context).value? = none →
      ∃ reports, type.read context = .refused context reports) ∧
    (∀ context value, (type.read context).value? = some value →
      ∃ (number : Nat) (blanks digits tail : List Char),
        value = .integer number ∧ type.Admits number ∧ IsNumeral number digits ∧
        IsSplit context.cursor.ahead blanks digits tail) ∧
    ∀ (context : Context) (number zeros : Nat) (blanks tail : List Char),
      type.Admits number → (∀ c ∈ blanks, isBlank c = true) →
      (∀ c ∈ tail.head?, c.isDigit = false) →
      let digits := List.replicate zeros '0' ++ (Value.integer number).display.toList
      context.cursor.ahead = blanks ++ (digits ++ tail) →
        type.read context = .accepted context (.integer number)
          (context.cursor.advance (blanks ++ digits) tail) := by
  refine ⟨?_, ?_, ?_, ?_⟩
  · intro context blanks digits tail hsplit hedge number reading
    refine ⟨read_of_unreadable hsplit hedge, ?_⟩
    intro hne hsmall
    have hread := read_of_readable type hsplit hne hsmall
    constructor
    · intro diagnostic hrejects
      rw [check_eq_some_iff.mpr hrejects] at hread
      exact hread
    · intro hnone
      have hcheck : type.check (numberOf digits) = none := by
        rw [Option.eq_none_iff_forall_ne_some]
        exact fun diagnostic hcheck => hnone diagnostic (check_eq_some_iff.mp hcheck)
      rw [hcheck] at hread
      exact hread
  · intro context hnone
    rcases type.read_cases context with hread | ⟨_, diagnostic, -, hread⟩ | ⟨_, _, -, -, hread⟩
    · exact ⟨[], hread⟩
    · exact ⟨[diagnostic], hread⟩
    · simp [hread, Reading.accepted] at hnone
  · intro context value hvalue
    exact exists_isNumeral_of_value? hvalue
  · intro context number zeros blanks tail hadmits hblanks htail digits hahead
    obtain ⟨hne, hdigits, hnumber⟩ := isNumeral_iff.mp ⟨zeros, rfl⟩
    have hsplit : IsSplit context.cursor.ahead blanks digits tail :=
      ⟨hahead, hblanks, hdigits, htail⟩
    have hsmall : number ≤ largest := Int.ofNat_le.mp hadmits.le_largest
    have hread := read_of_readable type hsplit hne (hnumber.trans_le hsmall)
    rw [hnumber, check_eq_none_iff.mpr ⟨hadmits.minimum_le, hadmits.le_maximum⟩] at hread
    exact hread

/-- A digit of another script ends a number, and the first number that is too large is refused
without a report. -/
theorem reads_numerals_within_bounds :
    let type : IntegerType := { minimum := some (-3), maximum := some 12 }
    let fits : Context := { cursor := .start "\u30000012٣".toList }
    let exceeds : Context := { cursor := .start " 013".toList }
    let unreadable : Context := { cursor := .start "9223372036854775808".toList }
    type.read fits = .accepted fits (.integer 12) ⟨"\u30000012".toList, "٣".toList⟩ ∧
    type.read exceeds = .refused exceeds [.aboveMaximum 12] ∧
    ({} : IntegerType).read unreadable = .refused unreadable [] := by
  intro type fits exceeds unreadable
  obtain ⟨hruns, -, -, hshown⟩ := reads_numerals type
  obtain ⟨hunbounded, -⟩ := reads_numerals {}
  have hadmits : type.Admits (12 : Nat) := by
    refine ⟨by decide, by decide, ?_, ?_⟩
    · rintro _ ⟨⟩
      decide
    · rintro _ ⟨⟩
      decide
  have hexceeds : IsSplit exceeds.cursor.ahead " ".toList "013".toList [] := by decide
  have hunreadable : IsSplit unreadable.cursor.ahead [] "9223372036854775808".toList [] := by
    decide
  have hblank : ∀ c ∈ "\u3000".toList, isBlank c = true := List.all_eq_true.mp rfl
  have hedge : ∀ c ∈ "٣".toList.head?, c.isDigit = false := by
    intro c hc
    obtain rfl : '٣' = c := Option.some.inj hc
    rfl
  refine ⟨?_, ?_, ?_⟩
  · exact hshown fits 12 2 "\u3000".toList "٣".toList hadmits hblank hedge rfl
  · obtain ⟨-, hrefused⟩ := hruns exceeds _ _ _ hexceeds (by decide)
    obtain ⟨habove, -⟩ := hrefused (by decide) (by decide)
    exact habove _ (.aboveMaximum (by decide) rfl (by decide))
  · obtain ⟨hlarge, -⟩ := hunbounded unreadable _ _ _ hunreadable (by decide)
    exact hlarge (.inr (by decide))

/-- All blanks are skipped, so a text that begins with a blank can be read although no digits
stand at its beginning.  That is why no blank may follow where there are no digits. -/
theorem blanks_after_no_digits_are_skipped :
    let context : Context := { cursor := .start " 5".toList }
    IsSplit context.cursor.ahead [] [] " 5".toList ∧
      ({} : IntegerType).read context = .accepted context (.integer 5) ⟨" 5".toList, []⟩ ∧
      ¬ ∀ (type : IntegerType) (context : Context) (blanks digits tail : List Char),
        IsSplit context.cursor.ahead blanks digits tail →
        digits = [] ∨ 9223372036854775807 < numberOf digits →
          type.read context = .refused context [] := by
  intro context
  have hsplit : IsSplit context.cursor.ahead [] [] " 5".toList := by decide
  have hread : ({} : IntegerType).read context =
      .accepted context (.integer 5) ⟨" 5".toList, []⟩ := rfl
  refine ⟨hsplit, hread, ?_⟩
  intro hrefused
  have hnone := congrArg Reading.value? (hrefused {} context [] [] _ hsplit (.inl rfl))
  rw [hread] at hnone
  cases hnone

end IntegerType

end CommandTree
