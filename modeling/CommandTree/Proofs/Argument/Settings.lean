import CommandTree.Proofs.Argument.Admission
import CommandTree.Proofs.Argument.Token
import Mathlib.Data.List.Induction

/-!
# Settings of text types

Of the settings of each kind only the last one counts, and their order does not matter
otherwise (`TextType.ofSettings_eq`).  The type that is set up in this way reads the text that
comes next exactly if it admits it, and otherwise gives the first reason against it and
changes nothing (`TextType.checks_exactly`).

Which texts match a pattern plays no part here: `Regex.accepts` may be any test of texts.
-/

namespace CommandTree

open Text

namespace TextType

/-! ## Settings -/

namespace Setting

def rule? : Setting → Option Rule
  | .rule given => some given
  | _ => none

def minLength? : Setting → Option Nat
  | .minLength least => some least
  | _ => none

def maxLength? : Setting → Option Nat
  | .maxLength most => some most
  | _ => none

end Setting

/-- The last setting of a kind, if there is one. -/
def lastOf {β : Type} (kind : Setting → Option β) (settings : List Setting) : Option β :=
  (settings.filterMap kind).getLast?

theorem lastOf_concat {β : Type} (kind : Setting → Option β) (settings : List Setting)
    (setting : Setting) :
    lastOf kind (settings ++ [setting]) = (kind setting).or (lastOf kind settings) := by
  rw [lastOf, List.filterMap_append]
  cases hkind : kind setting with
  | none => simp [hkind, lastOf]
  | some value => simp [hkind]

/-- The type has the last rule, the last least length and the last greatest length. -/
theorem ofSettings_eq (settings : List Setting) :
    ofSettings settings =
      { rule := lastOf Setting.rule? settings
        minLength := (lastOf Setting.minLength? settings).getD 0
        maxLength := lastOf Setting.maxLength? settings } := by
  induction settings using List.reverseRecOn with
  | nil => rfl
  | append_singleton settings setting ih =>
      have hstep : ofSettings (settings ++ [setting]) = (ofSettings settings).set setting := by
        simp [ofSettings]
      rw [hstep, ih, lastOf_concat, lastOf_concat, lastOf_concat]
      cases setting <;> rfl

/-! ## Readings -/

variable {type : TextType} {commands : List String} {context : Context} {token : Token}

/-- A text that is admitted is read, and the cursor moves past it. -/
theorem read_of_admits (hscan : Token.scan? (dropBlanks context.cursor.ahead) = some token)
    (hadmits : type.Admits commands (String.ofList token.value)) :
    type.read commands context =
      .accepted context (.text (String.ofList token.value))
        (context.cursor.advance (leadingBlanks context.cursor.ahead ++ token.taken)
          token.rest) :=
  read_of_scan?_of_check_eq_none hscan (check_eq_none_iff.mpr hadmits)

/-- A text that is rejected is refused for the reason, and nothing changes. -/
theorem read_of_rejects (hscan : Token.scan? (dropBlanks context.cursor.ahead) = some token)
    {diagnostic : Diagnostic}
    (hrejects : type.Rejects commands (String.ofList token.value) diagnostic) :
    type.read commands context = .refused context [diagnostic] :=
  read_of_scan?_of_check_eq_some hscan (check_eq_some_iff.mpr hrejects)

/-- A type that is built by settings has the last setting of each kind, so that the order of
the settings makes no other difference.  The text that comes next after the blanks is read
exactly if it is admitted, and the cursor then moves past it; if it is not, the first reason is
reported and nothing changes.  Where there is none, nothing is reported and nothing
changes. -/
theorem checks_exactly (settings : List Setting) (commands : List String) (context : Context) :
    let type := ofSettings settings
    let reading := type.read commands context
    let next := Token.scan? (dropBlanks context.cursor.ahead)
    (type.rule = lastOf Setting.rule? settings ∧
      type.minLength = (lastOf Setting.minLength? settings).getD 0 ∧
      type.maxLength = lastOf Setting.maxLength? settings) ∧
    (∀ others : List Setting,
      lastOf Setting.rule? others = lastOf Setting.rule? settings →
      lastOf Setting.minLength? others = lastOf Setting.minLength? settings →
      lastOf Setting.maxLength? others = lastOf Setting.maxLength? settings →
        (ofSettings others).read commands context = reading) ∧
    (reading.value?.isSome = true ↔
      ∃ token, next = some token ∧ type.Admits commands (String.ofList token.value)) ∧
    (next = none → reading = .refused context []) ∧
    ∀ token, next = some token →
      let value := String.ofList token.value
      (type.Admits commands value →
        reading = .accepted context (.text value)
          (context.cursor.advance (leadingBlanks context.cursor.ahead ++ token.taken)
            token.rest)) ∧
      (¬ type.Admits commands value → ∃ diagnostic,
        type.Rejects commands value diagnostic ∧ reading = .refused context [diagnostic]) ∧
      ∀ diagnostic, type.Rejects commands value diagnostic →
        reading = .refused context [diagnostic] := by
  intro type reading next
  have htype : type = _ := ofSettings_eq settings
  refine ⟨?_, ?_, ?_, ?_, ?_⟩
  · rw [htype]
    exact ⟨rfl, rfl, rfl⟩
  · intro others hrule hminLength hmaxLength
    have hsame : ofSettings others = type := by
      rw [htype, ofSettings_eq, hrule, hminLength, hmaxLength]
    rw [hsame]
  · constructor
    · intro hsome
      cases hscan : next with
      | none =>
          have hread : reading = .refused context [] := read_of_scan?_eq_none hscan
          simp [hread, Reading.refused] at hsome
      | some token =>
          refine ⟨token, rfl, ?_⟩
          rcases type.admits_or_exists_rejects commands (String.ofList token.value) with
            hadmits | ⟨diagnostic, hrejects⟩
          · exact hadmits
          · have hread : reading = .refused context [diagnostic] := read_of_rejects hscan hrejects
            simp [hread, Reading.refused] at hsome
    · rintro ⟨token, hscan, hadmits⟩
      have hread := read_of_admits hscan hadmits
      simp [reading, hread, Reading.accepted]
  · exact read_of_scan?_eq_none
  · intro token hscan value
    refine ⟨fun hadmits => read_of_admits hscan hadmits, ?_,
      fun diagnostic hrejects => read_of_rejects hscan hrejects⟩
    intro hnot
    obtain ⟨diagnostic, hrejects⟩ :=
      (type.admits_or_exists_rejects commands value).resolve_left hnot
    exact ⟨diagnostic, hrejects, read_of_rejects hscan hrejects⟩

/-- The last greatest length refuses what follows the last rule; a rule that came earlier and
would refuse it too plays no part.  Characters are counted, not bytes. -/
theorem checks_exactly_the_last_settings :
    let long : Rule := .predicate (2 < ·.length)
    let settings : List Setting :=
      [.rule (.list ["é"]), .minLength 9, .rule long, .minLength 2, .maxLength 3]
    let others : List Setting := [.maxLength 3, .minLength 2, .rule long]
    let read := (ofSettings settings).read []
    let fits : Context := { cursor := .start "  \"hé!\" x".toList }
    let exceeds : Context := { cursor := .start "héhé".toList }
    read fits = .accepted fits (.text "hé!") ⟨"  \"hé!\"".toList, " x".toList⟩ ∧
    read exceeds = .refused exceeds [.tooLong 3] ∧
    (ofSettings others).read [] exceeds = .refused exceeds [.tooLong 3] := by
  intro long settings others read fits exceeds
  obtain ⟨-, -, -, -, hfits⟩ := checks_exactly settings [] fits
  obtain ⟨-, horder, -, -, hexceeds⟩ := checks_exactly settings [] exceeds
  obtain ⟨hread, -⟩ := hfits ⟨"hé!".toList, "\"hé!\"".toList, " x".toList⟩ rfl
  obtain ⟨-, -, hrefused⟩ := hexceeds ⟨"héhé".toList, "héhé".toList, []⟩ rfl
  have hrule : ∀ value : String, 2 < value.length →
      ∀ rule ∈ (ofSettings settings).rule, rule.Admits [] value := by
    intro value hlength rule hmem
    obtain rfl : long = rule := Option.some.inj hmem
    exact decide_eq_true hlength
  have hlong := hrefused (.tooLong 3)
    (.tooLong (hrule _ (by decide)) (by decide) rfl (by decide))
  refine ⟨hread ⟨hrule _ (by decide), by decide, ?_⟩, hlong, ?_⟩
  · intro most hmem
    obtain rfl : 3 = most := Option.some.inj hmem
    decide
  · rw [horder others rfl rfl rfl]
    exact hlong

end TextType

end CommandTree
