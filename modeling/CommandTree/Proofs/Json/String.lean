import CommandTree.Json.Parser
import CommandTree.Proofs.Json.Grammar
import CommandTree.Proofs.Text.Reader

/-!
# Reading JSON strings

The reader of strings takes exactly what writes a string after its opening quote
(`Json.exists_of_run_stringBody`, `Json.exists_run_stringBody`).  It decodes units as they stand for
characters (`Json.textOfUnits_eq_some_iff`).
-/

namespace CommandTree.Json

open Text Text.Reader

variable {text rest : List Char} {units : List Nat}

/-! ## Hexadecimal digits -/

theorem hexValue?_digitChar : ∀ value < 16, hexValue? value.digitChar = some value ∧
    hexValue? value.digitChar.toUpper = some value := by
  decide

theorem isHexDigit_of_hexValue?_ofNat : ∀ code < 0x80, ∀ value ∈ hexValue? (Char.ofNat code),
    IsHexDigit (Char.ofNat code) value := by
  decide +kernel

theorem toNat_lt_of_hexValue? {c : Char} {value : Nat} (h : hexValue? c = some value) :
    c.toNat < 0x80 := by
  have hle : ∀ {d : Char}, c ≤ d → d.toNat < 0x80 → c.toNat < 0x80 :=
    fun hcd hd => Nat.lt_of_le_of_lt hcd hd
  rw [hexValue?] at h
  split at h
  · next hdigit =>
      rw [Char.isDigit, Bool.and_eq_true, decide_eq_true_eq, decide_eq_true_eq] at hdigit
      exact hle (d := '9') hdigit.2 (by decide)
  · split at h
    · next hsmall =>
        rw [Bool.and_eq_true, decide_eq_true_eq, decide_eq_true_eq] at hsmall
        exact hle hsmall.2 (by decide)
    · split at h
      · next hcapital =>
          rw [Bool.and_eq_true, decide_eq_true_eq, decide_eq_true_eq] at hcapital
          exact hle hcapital.2 (by decide)
      · cases h

theorem hexValue?_eq_some_iff {c : Char} {value : Nat} :
    hexValue? c = some value ↔ IsHexDigit c value := by
  constructor
  · intro h
    have hsmall := toNat_lt_of_hexValue? h
    rw [← Char.ofNat_toNat c] at h ⊢
    exact isHexDigit_of_hexValue?_ofNat _ hsmall _ h
  · rintro ⟨hvalue, rfl | rfl⟩
    · exact (hexValue?_digitChar value hvalue).1
    · exact (hexValue?_digitChar value hvalue).2

theorem IsHexDigit.isHexDigit {c : Char} {value : Nat} (h : IsHexDigit c value) :
    isHexDigit c = true := by
  rw [Text.isHexDigit, hexValue?_eq_some_iff.mpr h]
  rfl

theorem exists_isHexDigit {c : Char} (h : isHexDigit c = true) : ∃ value, IsHexDigit c value := by
  obtain ⟨value, hvalue⟩ := Option.isSome_iff_exists.mp h
  exact ⟨value, hexValue?_eq_some_iff.mp hvalue⟩

theorem hexNumber_eq {a b c d : Char} {i j k l : Nat} (ha : IsHexDigit a i) (hb : IsHexDigit b j)
    (hc : IsHexDigit c k) (hd : IsHexDigit d l) :
    hexNumber [a, b, c, d] = 0x1000 * i + 0x100 * j + 0x10 * k + l := by
  simp only [hexNumber, numberInBase, List.foldl_cons, List.foldl_nil,
    hexValue?_eq_some_iff.mpr ha, hexValue?_eq_some_iff.mpr hb, hexValue?_eq_some_iff.mpr hc,
    hexValue?_eq_some_iff.mpr hd, Option.getD_some]
  omega

/-! ## Escapes -/

theorem run_escape_eq_some_iff {unit : Nat} :
    escape.run text = some (unit, rest) ↔
      ∃ written, text = written ++ rest ∧ IsEscape written unit := by
  constructor
  · intro h
    rw [escape, run_bind_eq_some_iff] at h
    obtain ⟨letter, more, hletter, h⟩ := h
    obtain rfl := run_next_eq_some_iff.mp hletter
    split at h
    case h_9 =>
      obtain ⟨digits, hdigits, rfl⟩ : ∃ digits,
          (takeExactly isHexDigit 4).run more = some (digits, rest) ∧ hexNumber digits = unit := by
        simpa using h
      obtain ⟨rfl, hlength, hall⟩ := run_takeExactly_eq_some_iff.mp hdigits
      match digits, hlength with
      | [a, b, c, d], _ =>
        obtain ⟨i, hi⟩ := exists_isHexDigit (hall a (by simp))
        obtain ⟨j, hj⟩ := exists_isHexDigit (hall b (by simp))
        obtain ⟨k, hk⟩ := exists_isHexDigit (hall c (by simp))
        obtain ⟨l, hl⟩ := exists_isHexDigit (hall d (by simp))
        exact ⟨['u', a, b, c, d], rfl, hexNumber_eq hi hj hk hl ▸ .code hi hj hk hl⟩
    case h_10 => cases h
    all_goals
      obtain ⟨rfl, rfl⟩ : _ = unit ∧ more = rest := by simpa using h
      exact ⟨_, rfl, .letter (by decide)⟩
  · rintro ⟨written, rfl, hescape⟩
    cases hescape with
    | letter hletter =>
        simp only [letters, List.mem_cons, Prod.mk.injEq, List.not_mem_nil, or_false] at hletter
        rcases hletter with ⟨rfl, rfl⟩ | ⟨rfl, rfl⟩ | ⟨rfl, rfl⟩ | ⟨rfl, rfl⟩ | ⟨rfl, rfl⟩ |
          ⟨rfl, rfl⟩ | ⟨rfl, rfl⟩ | ⟨rfl, rfl⟩ <;> rfl
    | @code a b c d i j k l ha hb hc hd =>
        have htake : (takeExactly isHexDigit 4).run (a :: b :: c :: d :: rest) =
            some ([a, b, c, d], rest) :=
          run_takeExactly_eq_some_iff.mpr
            ⟨rfl, rfl, by simp [ha.isHexDigit, hb.isHexDigit, hc.isHexDigit, hd.isHexDigit]⟩
        have hnext : next.run ('u' :: a :: b :: c :: d :: rest) =
            some ('u', a :: b :: c :: d :: rest) := rfl
        rw [← hexNumber_eq ha hb hc hd, escape]
        simp [run_bind_of_eq_some hnext, htake]

/-! ## Units -/

theorem exists_of_run_stringUnits {fuel : Nat}
    (h : (stringUnits fuel).run text = some (units, rest)) :
    ∃ body, text = body ++ '"' :: rest ∧ WritesUnits body units := by
  induction fuel generalizing text units with
  | zero => cases h
  | succ fuel ih =>
      rw [stringUnits, run_bind_eq_some_iff] at h
      obtain ⟨c, more, hc, h⟩ := h
      obtain rfl := run_next_eq_some_iff.mp hc
      split at h
      · obtain ⟨rfl, rfl⟩ : [] = units ∧ more = rest := by simpa using h
        exact ⟨[], rfl, .nil⟩
      · rw [run_bind_eq_some_iff] at h
        obtain ⟨unit, middle, hunit, h⟩ := h
        obtain ⟨later, hlater, rfl⟩ : ∃ later,
            (stringUnits fuel).run middle = some (later, rest) ∧ unit :: later = units := by
          simpa using h
        obtain ⟨written, rfl, hescape⟩ := run_escape_eq_some_iff.mp hunit
        obtain ⟨body, rfl, hbody⟩ := ih hlater
        exact ⟨'\\' :: (written ++ body), by simp, .escape hescape hbody⟩
      · next hquote hbackslash =>
          by_cases hcontrol : c.toNat < 0x20
          · simp [hcontrol] at h
          · obtain ⟨later, hlater, rfl⟩ : ∃ later,
                (stringUnits fuel).run more = some (later, rest) ∧ c.toNat :: later = units := by
              simpa [hcontrol] using h
            obtain ⟨body, rfl, hbody⟩ := ih hlater
            exact ⟨c :: body, rfl, .plain hquote hbackslash (Nat.le_of_not_lt hcontrol) hbody⟩

theorem run_stringUnits {body : List Char} (h : WritesUnits body units) (rest : List Char) :
    ∀ fuel, body.length < fuel → (stringUnits fuel).run (body ++ '"' :: rest) =
      some (units, rest) := by
  induction h with
  | nil =>
      rintro (_ | fuel) hfuel
      · cases hfuel
      · rfl
  | @plain c body units hquote hbackslash hcontrol hbody ih =>
      rintro (_ | fuel) hfuel
      · cases hfuel
      · have hlater := ih fuel (by simpa using hfuel)
        have hnext : next.run (c :: (body ++ '"' :: rest)) = some (c, body ++ '"' :: rest) := rfl
        rw [stringUnits, List.cons_append, run_bind_of_eq_some hnext]
        simp [hlater, Nat.not_lt.mpr hcontrol]
  | @escape written body unit units hescape hbody ih =>
      rintro (_ | fuel) hfuel
      · cases hfuel
      · have hlater := ih fuel (by simp at hfuel; omega)
        have hnext : next.run ('\\' :: (written ++ (body ++ '"' :: rest))) =
            some ('\\', written ++ (body ++ '"' :: rest)) := rfl
        have hunit : escape.run (written ++ (body ++ '"' :: rest)) =
            some (unit, body ++ '"' :: rest) := run_escape_eq_some_iff.mpr ⟨written, rfl, hescape⟩
        rw [stringUnits, List.cons_append, List.append_assoc, run_bind_of_eq_some hnext]
        simp [hunit, hlater]

/-! ## Characters -/

theorem textOfUnits_toNat_cons (c : Char) (units : List Nat) :
    textOfUnits (c.toNat :: units) = (textOfUnits units).map (c :: ·) := by
  have hvalid : c.toNat.isValidChar := c.valid
  cases units <;> simp [textOfUnits, hvalid]

/-- The two halves of a pair are no characters, but their sum is one. -/
theorem textOfUnits_pair_cons {c : Char} {high low : Nat} (hhigh : high < 0x400)
    (hlow : low < 0x400) (hcode : c.toNat = 0x10000 + 0x400 * high + low) (units : List Nat) :
    textOfUnits ((0xD800 + high) :: (0xDC00 + low) :: units) =
      (textOfUnits units).map (c :: ·) := by
  have hinvalid : ¬ (0xD800 + high).isValidChar := by
    rw [Nat.isValidChar]
    omega
  have hhalves : 0xD800 ≤ 0xD800 + high ∧ 0xD800 + high ≤ 0xDBFF ∧ 0xDC00 ≤ 0xDC00 + low ∧
      0xDC00 + low ≤ 0xDFFF := by
    omega
  have hsum : 0x10000 + (0xD800 + high - 0xD800) * 0x400 + (0xDC00 + low - 0xDC00) = c.toNat := by
    omega
  rw [textOfUnits, if_neg hinvalid, if_pos hhalves, hsum, Char.ofNat_toNat]

/-- A valid code is that of a character. -/
theorem exists_toNat_eq {code : Nat} (h : code.isValidChar) : ∃ c : Char, c.toNat = code :=
  ⟨Char.ofNatAux code h, rfl⟩

theorem textOfUnits_eq_some_iff {chars : List Char} :
    textOfUnits units = some chars ↔ Encodes units chars := by
  constructor
  · intro h
    fun_induction textOfUnits units generalizing chars with
    | case1 =>
        obtain rfl := Option.some.inj h
        exact .nil
    | case2 unit hvalid =>
        obtain ⟨c, rfl⟩ := exists_toNat_eq hvalid
        obtain rfl := Option.some.inj h
        rw [Char.ofNat_toNat]
        exact .char c .nil
    | case3 => cases h
    | case4 unit second rest hvalid ih =>
        obtain ⟨c, rfl⟩ := exists_toNat_eq hvalid
        obtain ⟨later, hlater, rfl⟩ := Option.map_eq_some_iff.mp h
        rw [Char.ofNat_toNat]
        exact .char c (ih hlater)
    | case5 unit second rest hinvalid hhalves ih =>
        obtain ⟨later, hlater, rfl⟩ := Option.map_eq_some_iff.mp h
        obtain ⟨high, rfl⟩ := Nat.exists_eq_add_of_le hhalves.1
        obtain ⟨low, rfl⟩ := Nat.exists_eq_add_of_le hhalves.2.2.1
        have hsum : 0x10000 + (0xD800 + high - 0xD800) * 0x400 + (0xDC00 + low - 0xDC00) =
            0x10000 + 0x400 * high + low := by
          omega
        have hvalid : (0x10000 + 0x400 * high + low).isValidChar := by
          rw [Nat.isValidChar]
          omega
        obtain ⟨c, hcode⟩ := exists_toNat_eq hvalid
        rw [hsum, ← hcode, Char.ofNat_toNat]
        exact .pair (by omega) (by omega) hcode (ih hlater)
    | case6 => cases h
  · intro h
    induction h with
    | nil => rfl
    | char c h ih => rw [textOfUnits_toNat_cons, ih, Option.map_some]
    | pair hhigh hlow hcode h ih => rw [textOfUnits_pair_cons hhigh hlow hcode, ih, Option.map_some]

/-! ## Strings -/

theorem writesString_iff {written : List Char} {value : Option String} :
    WritesString written value ↔ ∃ body units, written = '"' :: (body ++ ['"']) ∧
      WritesUnits body units ∧ (textOfUnits units).map String.ofList = value := by
  constructor
  · rintro (@⟨body, units, text, hbody, htext⟩ | @⟨body, units, hbody, hnone⟩)
    · refine ⟨body, units, rfl, hbody, ?_⟩
      rw [textOfUnits_eq_some_iff.mpr htext, Option.map_some, String.ofList_toList]
    · refine ⟨body, units, rfl, hbody, ?_⟩
      rw [Option.map_eq_none_iff, Option.eq_none_iff_forall_ne_some]
      exact fun chars hchars => hnone chars (textOfUnits_eq_some_iff.mp hchars)
  · rintro ⟨body, units, rfl, hbody, rfl⟩
    cases hchars : textOfUnits units with
    | none =>
        exact .noText hbody fun chars hencodes => by
          cases hchars.symm.trans (textOfUnits_eq_some_iff.mpr hencodes)
    | some chars =>
        exact .text hbody (by simpa using textOfUnits_eq_some_iff.mp hchars)

theorem run_stringBody_eq :
    stringBody.run text = ((stringUnits (text.length + 1)).run text).map fun found =>
      ((textOfUnits found.1).map String.ofList, found.2) := by
  cases h : (stringUnits (text.length + 1)).run text <;> simp [stringBody, Reader.rest, h]

theorem exists_of_run_stringBody {value : Option String}
    (h : stringBody.run text = some (value, rest)) :
    ∃ body, text = body ++ '"' :: rest ∧ WritesString ('"' :: (body ++ ['"'])) value := by
  rw [run_stringBody_eq] at h
  obtain ⟨⟨units, later⟩, hunits, hvalue⟩ := Option.map_eq_some_iff.mp h
  obtain ⟨rfl, rfl⟩ := Prod.mk.inj hvalue
  obtain ⟨body, hbody, hwrites⟩ := exists_of_run_stringUnits hunits
  exact ⟨body, hbody, writesString_iff.mpr ⟨body, units, rfl, hwrites, rfl⟩⟩

/-- A string is taken up to its closing quote, whatever follows. -/
theorem exists_run_stringBody {written : List Char} {value : Option String}
    (h : WritesString written value) : ∃ body, written = '"' :: (body ++ ['"']) ∧
      ∀ rest, stringBody.run (body ++ '"' :: rest) = some (value, rest) := by
  obtain ⟨body, units, rfl, hbody, rfl⟩ := writesString_iff.mp h
  refine ⟨body, rfl, fun rest => ?_⟩
  have hunits := run_stringUnits hbody rest ((body ++ '"' :: rest).length + 1)
    (by rw [List.length_append]; omega)
  rw [run_stringBody_eq, hunits]
  rfl

end CommandTree.Json
