import CommandTree.Argument.Integer
import CommandTree.Proofs.Text.Utf8
import Mathlib.Data.List.TakeWhile

/-!
# Offsets into a text

An offset counts bytes.  It is a *boundary* if it falls between two characters or at an end
of a text, and nowhere else can the text be cut.

The offset of the first character with a property is found by adding up sizes, and the end
of a run of digits by counting bytes.  Both are boundaries: they are the widths of the runs
of characters that come before.
-/

namespace CommandTree.Text

variable {text front back : List Char} {offset : Nat}

/-- The offset falls between two characters of the text, or at one of its ends. -/
def IsBoundary (text : List Char) (offset : Nat) : Prop :=
  ∃ front back, text = front ++ back ∧ offset = width front

theorem IsBoundary.le_width (h : IsBoundary text offset) : offset ≤ width text := by
  obtain ⟨front, back, rfl, rfl⟩ := h
  simp

theorem width_eq_zero_iff : width text = 0 ↔ text = [] := by
  cases text with
  | nil => simp
  | cons c rest =>
      have hpos := c.utf8Size_pos
      simp only [width_cons, List.cons_ne_nil, iff_false]
      omega

/-! ## Cutting a text -/

theorem splitAtWidth?_append (front back : List Char) :
    splitAtWidth? (width front) (front ++ back) = some (front, back) := by
  induction front with
  | nil => simp [splitAtWidth?]
  | cons c front ih =>
      obtain ⟨n, hn⟩ := Nat.exists_eq_add_one.mpr c.utf8Size_pos
      have hwidth : width (c :: front) = n + width front + 1 := by
        rw [width_cons, hn]
        omega
      have hrest : n + width front + 1 - c.utf8Size = width front := by omega
      rw [hwidth, List.cons_append, splitAtWidth?, if_pos (by omega), hrest, ih]
      rfl

/-- A text can be cut exactly at its boundaries. -/
theorem splitAtWidth?_eq_none_iff :
    splitAtWidth? offset text = none ↔ ¬ IsBoundary text offset := by
  rw [Option.eq_none_iff_forall_ne_some]
  constructor
  · rintro h ⟨front, back, rfl, rfl⟩
    exact h (front, back) (splitAtWidth?_append front back)
  · rintro h ⟨front, back⟩ hcut
    obtain ⟨rfl, rfl⟩ := append_eq_of_splitAtWidth? hcut
    exact h ⟨front, back, rfl, rfl⟩

/-- What comes before an offset, which has to be a boundary. -/
def upTo? (text : List Char) (offset : Nat) : Option (List Char) :=
  (splitAtWidth? offset text).map Prod.fst

/-- What comes after an offset, which has to be a boundary. -/
def from? (text : List Char) (offset : Nat) : Option (List Char) :=
  (splitAtWidth? offset text).map Prod.snd

@[simp] theorem upTo?_append (front back : List Char) :
    upTo? (front ++ back) (width front) = some front := by
  simp [upTo?, splitAtWidth?_append]

@[simp] theorem from?_append (front back : List Char) :
    from? (front ++ back) (width front) = some back := by
  simp [from?, splitAtWidth?_append]

theorem upTo?_of_eq_append (htext : text = front ++ back) :
    upTo? text (width front) = some front := by
  rw [htext, upTo?_append]

theorem from?_of_eq_append (htext : text = front ++ back) :
    from? text (width front) = some back := by
  rw [htext, from?_append]

/-! ## Boundaries of strings -/

theorem width_toList (string : String) : width string.toList = string.utf8ByteSize := by
  rw [← String.size_toByteArray, ← String.utf8Encode_toList, List.utf8Encode]
  induction string.toList with
  | nil => rfl
  | cons c rest ih => simp_all [String.length_utf8EncodeChar]

/-- The boundaries of a string are its valid positions. -/
theorem isValid_iff_isBoundary {string : String} :
    (⟨offset⟩ : String.Pos.Raw).IsValid string ↔ IsBoundary string.toList offset := by
  rw [String.Pos.Raw.isValid_iff_exists_append]
  constructor
  · rintro ⟨front, back, rfl, hoffset⟩
    refine ⟨front.toList, back.toList, String.toList_append, ?_⟩
    rw [width_toList]
    exact congrArg String.Pos.Raw.byteIdx hoffset
  · rintro ⟨front, back, htext, rfl⟩
    refine ⟨String.ofList front, String.ofList back, ?_, ?_⟩
    · rw [← String.ofList_append, ← htext, String.ofList_toList]
    · have hsize := width_toList (String.ofList front)
      rw [String.toList_ofList] at hsize
      rw [hsize]
      rfl

/-! ## Searching -/

/-- The offset of the first character with a property. -/
def offsetOf? (p : Char → Bool) : List Char → Option Nat
  | [] => none
  | c :: rest => if p c then some 0 else (offsetOf? p rest).map (c.utf8Size + ·)

/-- The first character with a property comes after the longest run without it. -/
theorem offsetOf?_eq (p : Char → Bool) (text : List Char) :
    offsetOf? p text =
      if text.any p then some (width (text.takeWhile fun c => !p c)) else none := by
  induction text with
  | nil => rfl
  | cons c rest ih =>
      by_cases hc : p c = true
      · simp [offsetOf?, hc]
      · by_cases hrest : rest.any p = true
        · simp [offsetOf?, hc, ih, hrest]
        · simp [offsetOf?, hc, ih, hrest]

theorem getD_offsetOf? (p : Char → Bool) (text : List Char) :
    (offsetOf? p text).getD (width text) = width (text.takeWhile fun c => !p c) := by
  rw [offsetOf?_eq]
  split
  · rfl
  · next hnone =>
      have hall : ∀ c ∈ text, (!p c) = true := by simpa using hnone
      rw [Option.getD_none, List.takeWhile_eq_self_iff.mpr hall]

/-! ## Digits -/

/-- The byte is that of a decimal digit. -/
def isDigitByte (byte : UInt8) : Bool := 48 ≤ byte.toNat && byte.toNat ≤ 57

/-- The number of bytes of digits that a text starts with. -/
def digitCount (text : List Char) : Nat := ((utf8 text).takeWhile isDigitByte).length

theorem isDigit_iff {c : Char} : c.isDigit = true ↔ 48 ≤ c.toNat ∧ c.toNat ≤ 57 := by
  rw [Char.isDigit, Bool.and_eq_true, decide_eq_true_eq, decide_eq_true_eq]
  exact Iff.rfl

/-- A byte of a digit does not begin any other character. -/
theorem isDigit_of_isDigitByte {byte : UInt8} {c : Char} (hbyte : isDigitByte byte = true)
    (hmem : byte ∈ String.utf8EncodeChar c) : c.isDigit = true := by
  rw [isDigitByte, Bool.and_eq_true, decide_eq_true_eq, decide_eq_true_eq] at hbyte
  rw [isDigit_iff, (mem_utf8EncodeChar_iff (by omega)).mp hmem]
  exact hbyte

/-- A digit is a single byte. -/
theorem utf8EncodeChar_of_isDigit {c : Char} (hdigit : c.isDigit = true) :
    ∃ byte, String.utf8EncodeChar c = [byte] ∧ isDigitByte byte = true := by
  rw [isDigit_iff] at hdigit
  have hnumber : c.val.toNat = c.toNat := rfl
  have hsmall : c.toNat ≤ 127 := by omega
  refine ⟨UInt8.ofNat c.toNat, ?_, ?_⟩
  · simp only [String.utf8EncodeChar, hnumber]
    rw [if_pos hsmall]
  · rw [isDigitByte, UInt8.toNat_ofNat', Bool.and_eq_true, decide_eq_true_eq, decide_eq_true_eq]
    omega

/-- The bytes of digits are as many as the digits are wide. -/
theorem digitCount_eq (text : List Char) :
    digitCount text = width (IntegerType.leadingDigits text) := by
  induction text with
  | nil => rfl
  | cons c rest ih =>
      have hbytes : utf8 (c :: rest) = String.utf8EncodeChar c ++ utf8 rest := List.flatMap_cons
      have hsize := String.length_utf8EncodeChar c
      rw [digitCount, IntegerType.leadingDigits] at ih ⊢
      rw [hbytes, List.takeWhile_cons]
      by_cases hdigit : c.isDigit = true
      · obtain ⟨byte, hencoded, hbyte⟩ := utf8EncodeChar_of_isDigit hdigit
        rw [if_pos hdigit, width_cons, ← hsize, ← ih, hencoded]
        simp [hbyte, Nat.add_comm]
      · rw [if_neg hdigit]
        rcases hencoded : String.utf8EncodeChar c with _ | ⟨byte, later⟩
        · have hpos := c.utf8Size_pos
          simp [hencoded] at hsize
          omega
        · have hbyte : isDigitByte byte = false := by
            by_contra hdigitByte
            apply hdigit
            exact isDigit_of_isDigitByte (by simpa using hdigitByte) (by simp [hencoded])
          simp [hbyte]

end CommandTree.Text
