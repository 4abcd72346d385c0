import CommandTree.Proofs.Argument.Discipline

/-!
# What argument types let through

A type of numbers or of texts says which values it admits, and for which reason it rejects
another one; here this is said without reading anything.  Its check gives the reason
(`IntegerType.check_eq_some_iff`, `TextType.check_eq_some_iff`), or none exactly if the value
is admitted.  What such a type reads, it admits.
-/

namespace CommandTree

/-! ## Rules -/

/-- The values a rule is meant to let through. -/
def Rule.Admits (commands : List String) : Rule → String → Prop
  | pattern regex, value => regex.accepts value = true
  | list values, value => value ∈ values
  | predicate accepts, value => accepts value = true
  | Rule.commands, value => value ∈ commands

theorem Rule.check_eq_none_iff {rule : Rule} {commands : List String}
    {value : String} :
    rule.check commands value = none ↔ rule.Admits commands value := by
  cases rule <;> simp [check, Admits]

/-- What a rule says of the texts it does not let through. -/
def Rule.refusal (commands : List String) : Rule → Diagnostic
  | pattern regex => .patternMismatch regex.source
  | list values => .notInList (",".intercalate values)
  | predicate _ => .rejectedByPredicate
  | Rule.commands => .notInList (",".intercalate commands)

theorem Rule.check_eq_some_iff {rule : Rule} {commands : List String} {value : String}
    {diagnostic : Diagnostic} :
    rule.check commands value = some diagnostic ↔
      ¬ rule.Admits commands value ∧ rule.refusal commands = diagnostic := by
  cases rule <;> simp [check, Admits, refusal, Diagnostic.outside]

/-! ## Numbers -/

namespace IntegerType

/-- The numbers within the bounds of a type.  None is negative, and none needs more than 63
bits. -/
structure Admits (type : IntegerType) (number : Int) : Prop where
  nonneg : 0 ≤ number
  le_largest : number ≤ 9223372036854775807
  minimum_le : ∀ minimum ∈ type.minimum, minimum ≤ number
  le_maximum : ∀ maximum ∈ type.maximum, number ≤ maximum

variable {type : IntegerType} {number : Int}

/-- The reason for which a number is not within the bounds, of which the minimum comes first. -/
inductive Rejects (type : IntegerType) (number : Int) : Diagnostic → Prop where
  | belowMinimum {minimum : Int} (hminimum : type.minimum = some minimum)
      (hbelow : number < minimum) : Rejects type number (.belowMinimum minimum)
  | aboveMaximum {maximum : Int} (hleast : ∀ minimum ∈ type.minimum, minimum ≤ number)
      (hmaximum : type.maximum = some maximum) (habove : maximum < number) :
      Rejects type number (.aboveMaximum maximum)

theorem check_eq_some_iff {diagnostic : Diagnostic} :
    type.check number = some diagnostic ↔ type.Rejects number diagnostic := by
  rw [check]
  constructor
  · intro h
    split at h
    · next minimum hfilter =>
        obtain ⟨hminimum, hbelow⟩ := Option.filter_eq_some_iff.mp hfilter
        obtain rfl := Option.some.inj h
        exact .belowMinimum hminimum (of_decide_eq_true hbelow)
    · next hnone =>
        obtain ⟨maximum, hfilter, rfl⟩ := Option.map_eq_some_iff.mp h
        obtain ⟨hmaximum, habove⟩ := Option.filter_eq_some_iff.mp hfilter
        have hleast : ∀ minimum ∈ type.minimum, minimum ≤ number := by
          simpa [Option.filter_eq_none_iff] using hnone
        exact .aboveMaximum hleast hmaximum (of_decide_eq_true habove)
  · intro h
    cases h with
    | belowMinimum hminimum hbelow =>
        rw [Option.filter_eq_some_iff.mpr ⟨hminimum, decide_eq_true hbelow⟩]
    | aboveMaximum hleast hmaximum habove =>
        have hnone : type.minimum.filter (number < ·) = none := by
          simpa [Option.filter_eq_none_iff] using hleast
        rw [hnone, Option.filter_eq_some_iff.mpr ⟨hmaximum, decide_eq_true habove⟩]
        rfl

theorem check_eq_none_iff :
    type.check number = none ↔
      (∀ minimum ∈ type.minimum, minimum ≤ number) ∧
        ∀ maximum ∈ type.maximum, number ≤ maximum := by
  rw [Option.eq_none_iff_forall_ne_some]
  constructor
  · intro hnone
    have hleast : ∀ minimum ∈ type.minimum, minimum ≤ number := by
      intro minimum hmem
      by_contra hbelow
      exact hnone _ (check_eq_some_iff.mpr (.belowMinimum hmem (Int.not_le.mp hbelow)))
    refine ⟨hleast, ?_⟩
    intro maximum hmem
    by_contra habove
    exact hnone _ (check_eq_some_iff.mpr (.aboveMaximum hleast hmem (Int.not_le.mp habove)))
  · rintro ⟨hleast, hmost⟩ diagnostic hcheck
    cases check_eq_some_iff.mp hcheck with
    | belowMinimum hminimum hbelow => exact Int.not_lt.mpr (hleast _ hminimum) hbelow
    | aboveMaximum _ hmaximum habove => exact Int.not_lt.mpr (hmost _ hmaximum) habove

theorem exists_of_value? {context : Context} {value : Value}
    (h : (type.read context).value? = some value) :
    ∃ number, value = .integer number ∧ type.Admits number := by
  rcases type.read_cases context with
    hread | ⟨_, _, _, hread⟩ | ⟨number, _, hlargest, hcheck, hread⟩
  · simp [hread, Reading.refused] at h
  · simp [hread, Reading.refused] at h
  · have hvalue : Value.integer number = value := by
      simpa [hread, Reading.accepted] using h
    obtain ⟨hminimum, hmaximum⟩ := check_eq_none_iff.mp hcheck
    exact ⟨number, hvalue.symm, Int.natCast_nonneg number,
      Int.ofNat_le.mpr hlargest, hminimum, hmaximum⟩

end IntegerType

/-! ## Texts -/

namespace TextType

/-- The texts that follow the rule of a type and have a length within its bounds. -/
structure Admits (type : TextType) (commands : List String) (value : String) :
    Prop where
  rule : ∀ rule ∈ type.rule, rule.Admits commands value
  minLength_le : type.minLength ≤ value.length
  le_maxLength : ∀ most ∈ type.maxLength, value.length ≤ most

variable {type : TextType} {commands : List String} {value : String}

/-- The first of the reasons for which a type does not admit a text. -/
inductive Rejects (type : TextType) (commands : List String) (value : String) :
    Diagnostic → Prop where
  | rule {rule : Rule} (hrule : type.rule = some rule)
      (hrefused : ¬ rule.Admits commands value) :
      Rejects type commands value (rule.refusal commands)
  | tooShort (hrule : ∀ rule ∈ type.rule, rule.Admits commands value)
      (hshort : value.length < type.minLength) :
      Rejects type commands value (.tooShort type.minLength)
  | tooLong {most : Nat} (hrule : ∀ rule ∈ type.rule, rule.Admits commands value)
      (hlength : type.minLength ≤ value.length) (hmost : type.maxLength = some most)
      (hlong : most < value.length) :
      Rejects type commands value (.tooLong most)

theorem checkLength_eq_some_iff {length : Nat} {diagnostic : Diagnostic} :
    type.checkLength length = some diagnostic ↔
      (length < type.minLength ∧ .tooShort type.minLength = diagnostic) ∨
      (type.minLength ≤ length ∧
        ∃ most, type.maxLength = some most ∧ most < length ∧ .tooLong most = diagnostic) := by
  rw [checkLength]
  by_cases hshort : length < type.minLength
  · rw [if_pos hshort]
    simp [hshort, Nat.not_le.mpr hshort]
  · rw [if_neg hshort, Option.map_eq_some_iff]
    simp [hshort, Nat.not_lt.mp hshort, Option.filter_eq_some_iff, and_assoc]

theorem rule_check_eq_none_iff :
    type.rule.bind (·.check commands value) = none ↔
      ∀ rule ∈ type.rule, rule.Admits commands value := by
  simp only [Option.bind_eq_none_iff, Rule.check_eq_none_iff, Option.mem_def]

/-- The check gives the first reason. -/
theorem check_eq_some_iff {diagnostic : Diagnostic} :
    type.check commands value = some diagnostic ↔ type.Rejects commands value diagnostic := by
  rw [check, Option.or_eq_some_iff, rule_check_eq_none_iff, checkLength_eq_some_iff]
  constructor
  · rintro (hfirst | ⟨hrule, ⟨hshort, rfl⟩ | ⟨hlength, most, hmost, hlong, rfl⟩⟩)
    · obtain ⟨rule, hrule, hcheck⟩ := Option.bind_eq_some_iff.mp hfirst
      obtain ⟨hrefused, rfl⟩ := Rule.check_eq_some_iff.mp hcheck
      exact .rule hrule hrefused
    · exact .tooShort hrule hshort
    · exact .tooLong hrule hlength hmost hlong
  · intro h
    cases h with
    | rule hrule hrefused =>
        exact .inl (Option.bind_eq_some_iff.mpr
          ⟨_, hrule, Rule.check_eq_some_iff.mpr ⟨hrefused, rfl⟩⟩)
    | tooShort hrule hshort => exact .inr ⟨hrule, .inl ⟨hshort, rfl⟩⟩
    | tooLong hrule hlength hmost hlong =>
        exact .inr ⟨hrule, .inr ⟨hlength, _, hmost, hlong, rfl⟩⟩

/-- There is no reason exactly if the text is admitted. -/
theorem check_eq_none_iff :
    type.check commands value = none ↔ type.Admits commands value := by
  rw [Option.eq_none_iff_forall_ne_some]
  constructor
  · intro hnone
    have hrule : ∀ rule ∈ type.rule, rule.Admits commands value := by
      intro rule hmem
      by_contra hrefused
      exact hnone _ (check_eq_some_iff.mpr (.rule hmem hrefused))
    have hlength : type.minLength ≤ value.length := by
      by_contra hshort
      exact hnone _ (check_eq_some_iff.mpr (.tooShort hrule (Nat.not_le.mp hshort)))
    refine ⟨hrule, hlength, ?_⟩
    intro most hmem
    by_contra hlong
    exact hnone _ (check_eq_some_iff.mpr (.tooLong hrule hlength hmem (Nat.not_le.mp hlong)))
  · intro h diagnostic hcheck
    cases check_eq_some_iff.mp hcheck with
    | rule hrule hrefused => exact hrefused (h.rule _ hrule)
    | tooShort _ hshort => exact Nat.not_lt.mpr h.minLength_le hshort
    | tooLong _ _ hmost hlong => exact Nat.not_lt.mpr (h.le_maxLength _ hmost) hlong

theorem admits_or_exists_rejects (type : TextType) (commands : List String) (value : String) :
    type.Admits commands value ∨ ∃ diagnostic, type.Rejects commands value diagnostic := by
  cases hcheck : type.check commands value with
  | none => exact .inl (check_eq_none_iff.mp hcheck)
  | some diagnostic => exact .inr ⟨diagnostic, check_eq_some_iff.mp hcheck⟩

theorem exists_of_value? {context : Context} {value : Value}
    (h : (type.read commands context).value? = some value) :
    ∃ text, value = .text text ∧ type.Admits commands text := by
  rcases type.read_cases commands context with
    hread | ⟨_, _, _, hread⟩ | ⟨text, _, hcheck, hread⟩
  · simp [hread, Reading.refused] at h
  · simp [hread, Reading.refused] at h
  · have hvalue : Value.text text = value := by
      simpa [hread, Reading.accepted] using h
    exact ⟨text, hvalue.symm, check_eq_none_iff.mp hcheck⟩

end TextType

/-! ## Argument types -/

namespace ArgumentType

def IsStandard : ArgumentType → Prop
  | integer _ | text _ => True
  | custom _ => False

/-- The values that a type of numbers or of texts is meant to let through. -/
def Admits (commands : List String) : ArgumentType → Value → Prop
  | integer type, .integer number => type.Admits number
  | text type, .text value => type.Admits commands value
  | _, _ => False

theorem IsStandard.keepsBindings {type : ArgumentType} (h : type.IsStandard) :
    type.KeepsBindings := by
  cases type with
  | integer type => exact keepsBindings_integer type
  | text type => exact keepsBindings_text type
  | custom read => exact h.elim

/-- What a type of numbers or of texts reads, it admits. -/
theorem IsStandard.admits {type : ArgumentType} (h : type.IsStandard)
    {commands : List String} {context : Context} {value : Value}
    (hvalue : (type.read commands context).value? = some value) :
    type.Admits commands value := by
  cases type with
  | integer type =>
      obtain ⟨number, rfl, hadmits⟩ := IntegerType.exists_of_value? hvalue
      exact hadmits
  | text type =>
      obtain ⟨text, rfl, hadmits⟩ := TextType.exists_of_value? hvalue
      exact hadmits
  | custom read => exact h.elim

end ArgumentType

end CommandTree
