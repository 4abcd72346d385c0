import CommandTree.Json.Parser
import CommandTree.Proofs.Json.Grammar
import CommandTree.Proofs.Text.Reader

/-!
# Reading JSON numbers

The reader of numbers takes numbers only (`Json.exists_isNumber_of_run_number`), and a number
that is not followed by what could be a part of one is taken as a whole
(`Json.run_number_of_isNumber`).
-/

namespace CommandTree.Json

open Text.Reader

variable {text rest : List Char} {done : Unit}

/-- No text that follows makes a number longer: the text does not begin with a part of one. -/
def EndsNumber (text : List Char) : Prop :=
  ∀ c ∈ text.head?, c.isDigit = false ∧ c ≠ '.' ∧ c ≠ 'e' ∧ c ≠ 'E'

theorem run_digits_eq_some_iff {digits : List Char} :
    (takeSome Char.isDigit).run text = some (digits, rest) ↔
      text = digits ++ rest ∧ IsDigits digits ∧ ∀ c ∈ rest.head?, c.isDigit = false := by
  rw [run_takeSome_eq_some_iff]
  constructor
  · rintro ⟨htext, hne, hdigits, hrest⟩
    exact ⟨htext, ⟨hne, hdigits⟩, hrest⟩
  · rintro ⟨htext, ⟨hne, hdigits⟩, hrest⟩
    exact ⟨htext, hne, hdigits, hrest⟩

/-- A text that begins with digits begins with one. -/
theorem IsDigits.head?_append {digits : List Char} (h : IsDigits digits) (rest : List Char) :
    ∃ c ∈ (digits ++ rest).head?, c.isDigit = true := by
  cases digits with
  | nil => exact absurd rfl h.ne_nil
  | cons c later => exact ⟨c, rfl, h.digits c List.mem_cons_self⟩

/-! ## Parts of a number -/

theorem isWhole_iff {digits : List Char} (hdigits : IsDigits digits) :
    IsWhole digits ↔ (digits.head? == some '0' && decide (digits.length > 1)) = false := by
  constructor
  · intro hwhole
    by_cases hzero : digits.head? = some '0'
    · simp [hwhole.eq_zero hzero]
    · simp [hzero]
  · intro h
    refine ⟨hdigits, fun hzero => ?_⟩
    cases digits with
    | nil => cases hzero
    | cons c later =>
        obtain rfl : c = '0' := Option.some.inj hzero
        simpa using h

theorem run_wholePart_eq_some_iff :
    wholePart.run text = some (done, rest) ↔
      ∃ whole, text = whole ++ rest ∧ IsWhole whole ∧ ∀ c ∈ rest.head?, c.isDigit = false := by
  rw [wholePart, run_bind_eq_some_iff]
  constructor
  · rintro ⟨whole, middle, hdigits, h⟩
    obtain ⟨rfl, hwhole, hends⟩ := run_digits_eq_some_iff.mp hdigits
    cases hzero : whole.head? == some '0' && decide (whole.length > 1) with
    | true => simp [hzero] at h
    | false =>
        obtain rfl : middle = rest := by simpa [hzero] using h
        exact ⟨whole, rfl, (isWhole_iff hwhole).mpr hzero, hends⟩
  · rintro ⟨whole, rfl, hwhole, hends⟩
    refine ⟨whole, rest, run_digits_eq_some_iff.mpr ⟨rfl, hwhole.toIsDigits, hends⟩, ?_⟩
    simp [(isWhole_iff hwhole.toIsDigits).mp hwhole]

theorem exists_isFraction_of_run_fraction (h : fraction.run text = some (done, rest)) :
    ∃ part, text = part ++ rest ∧ IsFraction part := by
  rw [fraction] at h
  rcases run_skip_cases "." text with ⟨more, rfl, hskip⟩ | ⟨-, hskip⟩
  · rw [run_bind_of_eq_some hskip] at h
    obtain ⟨digits, hdigits⟩ : ∃ digits,
        (takeSome Char.isDigit).run more = some (digits, rest) := by
      simpa using h
    obtain ⟨rfl, hplaces, -⟩ := run_digits_eq_some_iff.mp hdigits
    exact ⟨'.' :: digits, rfl, .places hplaces⟩
  · rw [run_bind_of_eq_some hskip] at h
    obtain rfl : text = rest := by simpa using h
    exact ⟨[], rfl, .none⟩

theorem run_fraction_of_isFraction {part : List Char} (hpart : IsFraction part)
    (hends : ∀ c ∈ rest.head?, c.isDigit = false ∧ c ≠ '.') :
    fraction.run (part ++ rest) = some ((), rest) := by
  rw [fraction]
  cases hpart with
  | none =>
      rcases run_skip_cases "." rest with ⟨more, rfl, -⟩ | ⟨-, hskip⟩
      · exact absurd rfl (hends '.' rfl).2
      · rw [List.nil_append, run_bind_of_eq_some hskip]
        rfl
  | @places digits hdigits =>
      have hskip : (skip ".").run ('.' :: (digits ++ rest)) = some (true, digits ++ rest) :=
        run_skip_append "." _
      have htake := run_digits_eq_some_iff.mpr ⟨rfl, hdigits, fun c hc => (hends c hc).1⟩
      rw [List.cons_append, run_bind_of_eq_some hskip]
      simp [htake]

theorem exists_sign_of_run_skip {signed : Bool}
    (h : (skip "+" <||> skip "-").run text = some (signed, rest)) :
    ∃ sign, (sign = [] ∨ sign = ['+'] ∨ sign = ['-']) ∧ text = sign ++ rest := by
  rcases run_skip_or_cases "+" "-" text with ⟨more, htext, hskip⟩ | ⟨-, hskip⟩
  · obtain ⟨-, rfl⟩ : true = signed ∧ more = rest := by simpa [hskip] using h
    rcases htext with rfl | rfl
    · exact ⟨['+'], .inr (.inl rfl), rfl⟩
    · exact ⟨['-'], .inr (.inr rfl), rfl⟩
  · obtain ⟨-, rfl⟩ : false = signed ∧ text = rest := by simpa [hskip] using h
    exact ⟨[], .inl rfl, rfl⟩

/-- Digits are left, whether a sign comes before them or not. -/
theorem exists_run_skip_sign {sign digits : List Char}
    (hsign : sign = [] ∨ sign = ['+'] ∨ sign = ['-']) (hdigits : IsDigits digits)
    (rest : List Char) : ∃ signed, (skip "+" <||> skip "-").run (sign ++ (digits ++ rest)) =
      some (signed, digits ++ rest) := by
  rcases hsign with rfl | rfl | rfl
  · obtain ⟨c, hc, hdigit⟩ := hdigits.head?_append rest
    rcases run_skip_or_cases "+" "-" (digits ++ rest) with ⟨more, htext, -⟩ | ⟨-, hskip⟩
    · rcases htext with htext | htext <;> rw [htext] at hc <;> cases hc <;> cases hdigit
    · exact ⟨false, hskip⟩
  · exact ⟨true, run_skip_or_append "+" "-" (digits ++ rest)⟩
  · exact ⟨true, run_skip_or_append_right (by rintro more ⟨⟩)⟩

theorem exists_isExponent_of_run_exponent (h : exponent.run text = some (done, rest)) :
    ∃ part, text = part ++ rest ∧ IsExponent part := by
  rw [exponent] at h
  rcases run_skip_or_cases "e" "E" text with ⟨more, htext, hskip⟩ | ⟨-, hskip⟩
  · obtain ⟨mark, hmark, rfl⟩ : ∃ mark, (mark = 'e' ∨ mark = 'E') ∧ text = mark :: more := by
      rcases htext with rfl | rfl
      · exact ⟨'e', .inl rfl, rfl⟩
      · exact ⟨'E', .inr rfl, rfl⟩
    rw [run_bind_of_eq_some hskip, if_pos rfl, run_bind_eq_some_iff] at h
    obtain ⟨signed, later, hsigned, h⟩ := h
    obtain ⟨digits, hdigits⟩ : ∃ digits,
        (takeSome Char.isDigit).run later = some (digits, rest) := by
      simpa using h
    obtain ⟨rfl, hpower, -⟩ := run_digits_eq_some_iff.mp hdigits
    obtain ⟨sign, hsign, rfl⟩ := exists_sign_of_run_skip hsigned
    exact ⟨mark :: (sign ++ digits), by simp, .power hmark hsign hpower⟩
  · rw [run_bind_of_eq_some hskip] at h
    obtain rfl : text = rest := by simpa using h
    exact ⟨[], rfl, .none⟩

theorem run_exponent_of_isExponent {part : List Char} (hpart : IsExponent part)
    (hends : ∀ c ∈ rest.head?, c.isDigit = false ∧ c ≠ 'e' ∧ c ≠ 'E') :
    exponent.run (part ++ rest) = some ((), rest) := by
  rw [exponent]
  cases hpart with
  | none =>
      rcases run_skip_or_cases "e" "E" rest with ⟨more, rfl | rfl, -⟩ | ⟨-, hskip⟩
      · exact absurd rfl (hends 'e' rfl).2.1
      · exact absurd rfl (hends 'E' rfl).2.2
      · rw [List.nil_append, run_bind_of_eq_some hskip]
        rfl
  | @power mark sign digits hmark hsign hdigits =>
      have hskip : (skip "e" <||> skip "E").run (mark :: (sign ++ digits ++ rest)) =
          some (true, sign ++ digits ++ rest) := by
        rcases hmark with rfl | rfl
        · exact run_skip_or_append "e" "E" _
        · exact run_skip_or_append_right (by rintro more ⟨⟩)
      obtain ⟨signed, hsigned⟩ := exists_run_skip_sign hsign hdigits rest
      have htake := run_digits_eq_some_iff.mpr ⟨rfl, hdigits, fun c hc => (hends c hc).1⟩
      rw [List.cons_append, run_bind_of_eq_some hskip, if_pos rfl, List.append_assoc,
        run_bind_of_eq_some hsigned]
      simp [htake]

/-! ## Numbers -/

theorem exists_isNumber_of_run_number (h : number.run text = some (done, rest)) :
    ∃ written, text = written ++ rest ∧ IsNumber written := by
  obtain ⟨sign, later, hsign, rfl, hrun⟩ : ∃ sign later, (sign = [] ∨ sign = ['-']) ∧
      text = sign ++ later ∧
      (do wholePart; fraction; exponent : Text.Reader Unit).run later = some (done, rest) := by
    rw [number] at h
    rcases run_skip_cases "-" text with ⟨later, rfl, hskip⟩ | ⟨-, hskip⟩
    · exact ⟨['-'], later, .inr rfl, rfl, by rwa [run_bind_of_eq_some hskip] at h⟩
    · exact ⟨[], text, .inl rfl, rfl, by rwa [run_bind_of_eq_some hskip] at h⟩
  simp only [run_bind_eq_some_iff, run_wholePart_eq_some_iff] at hrun
  obtain ⟨_, _, ⟨whole, rfl, hwhole, -⟩, _, _, hplaces, hpower⟩ := hrun
  obtain ⟨places, rfl, hfraction⟩ := exists_isFraction_of_run_fraction hplaces
  obtain ⟨power, rfl, hexponent⟩ := exists_isExponent_of_run_exponent hpower
  exact ⟨_, by simp, .mk hsign hwhole hfraction hexponent⟩

theorem IsExponent.head?_append {part : List Char} (h : IsExponent part)
    (hends : EndsNumber rest) : ∀ c ∈ (part ++ rest).head?, c.isDigit = false ∧ c ≠ '.' := by
  cases h with
  | none => exact fun c hc => ⟨(hends c hc).1, (hends c hc).2.1⟩
  | power hmark hsign hdigits =>
      rintro c ⟨⟩
      rcases hmark with rfl | rfl <;> decide

theorem IsFraction.head?_append {part : List Char} (h : IsFraction part)
    (hends : ∀ c ∈ rest.head?, c.isDigit = false) :
    ∀ c ∈ (part ++ rest).head?, c.isDigit = false := by
  cases h with
  | none => exact hends
  | places hdigits =>
      rintro c ⟨⟩
      rfl

theorem exists_run_skip_minus {sign digits : List Char} (hsign : sign = [] ∨ sign = ['-'])
    (hdigits : IsDigits digits) (rest : List Char) :
    ∃ signed, (skip "-").run (sign ++ (digits ++ rest)) = some (signed, digits ++ rest) := by
  rcases hsign with rfl | rfl
  · obtain ⟨c, hc, hdigit⟩ := hdigits.head?_append rest
    rcases run_skip_cases "-" (digits ++ rest) with ⟨more, htext, -⟩ | ⟨-, hskip⟩
    · rw [htext] at hc
      cases hc
      cases hdigit
    · exact ⟨false, hskip⟩
  · exact ⟨true, run_skip_append "-" (digits ++ rest)⟩

theorem run_number_of_isNumber {written : List Char} (hnumber : IsNumber written)
    (hends : EndsNumber rest) : number.run (written ++ rest) = some ((), rest) := by
  obtain @⟨sign, whole, places, power, hsign, hwhole, hfraction, hexponent⟩ := hnumber
  have hpower := hexponent.head?_append hends
  have hplaces := hfraction.head?_append fun c hc => (hpower c hc).1
  obtain ⟨signed, hminus⟩ :=
    exists_run_skip_minus hsign hwhole.toIsDigits (places ++ (power ++ rest))
  have hdigits : wholePart.run (whole ++ (places ++ (power ++ rest))) =
      some ((), places ++ (power ++ rest)) :=
    run_wholePart_eq_some_iff.mpr ⟨whole, rfl, hwhole, hplaces⟩
  simp only [List.append_assoc]
  rw [number, run_bind_of_eq_some hminus, run_bind_of_eq_some hdigits,
    run_bind_of_eq_some (run_fraction_of_isFraction hfraction hpower)]
  exact run_exponent_of_isExponent hexponent fun c hc => ⟨(hends c hc).1, (hends c hc).2.2⟩

end CommandTree.Json
