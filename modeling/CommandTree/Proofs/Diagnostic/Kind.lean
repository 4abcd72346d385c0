import CommandTree.Diagnostic

/-!
# Kinds of diagnostics

The wording of a diagnostic begins with words that tell its kind, and none of these beginnings
is the beginning of another (`Diagnostic.Kind.eq_of_lead_isPrefix`).  So whatever a diagnostic
carries, its kind can be told from its wording, also where a text that is carried is itself
worded like a diagnostic.
-/

namespace CommandTree

namespace Diagnostic

/-- What is refused, and why, without what the refusal is about. -/
inductive Kind where
  | notFound
  | missingArgument
  | patternMismatch
  | notInList
  | rejectedByPredicate
  | tooShort
  | tooLong
  | belowMinimum
  | aboveMaximum
deriving DecidableEq

namespace Kind

/-- The words before what a diagnostic carries. -/
def lead : Kind → String
  | notFound => "Command not found or invalid usage: \""
  | missingArgument => "Missing required argument for \""
  | patternMismatch => "Input does not match the allowed pattern \""
  | notInList => "string is not in the allowed list \""
  | rejectedByPredicate => "string is not allowed by allows function"
  | tooShort => "string is too short. Minimum length is "
  | tooLong => "string is too long. Maximum length is "
  | belowMinimum => "integer is too small. Minimum is "
  | aboveMaximum => "integer is too large. Maximum is "

/-- What follows after it. -/
def close : Kind → String
  | notFound | missingArgument => "\""
  | patternMismatch | notInList => "\"."
  | rejectedByPredicate => ""
  | tooShort | tooLong | belowMinimum | aboveMaximum => "."

/-- No wording begins like one of another kind. -/
theorem eq_of_lead_isPrefix {kind other : Kind}
    (h : kind.lead.toList <+: other.lead.toList) : kind = other := by
  revert h
  cases kind <;> cases other <;> decide

theorem lead_ne_empty (kind : Kind) : kind.lead ≠ "" := by
  cases kind <;> decide

end Kind

variable {diagnostic other : Diagnostic}

def kind : Diagnostic → Kind
  | notFound _ => .notFound
  | missingArgument _ => .missingArgument
  | patternMismatch _ => .patternMismatch
  | notInList _ => .notInList
  | rejectedByPredicate => .rejectedByPredicate
  | tooShort _ => .tooShort
  | tooLong _ => .tooLong
  | belowMinimum _ => .belowMinimum
  | aboveMaximum _ => .aboveMaximum

/-- What a diagnostic carries, as it is shown. -/
def payload : Diagnostic → String
  | notFound text | missingArgument text | patternMismatch text | notInList text => text
  | rejectedByPredicate => ""
  | tooShort bound | tooLong bound => bound.repr
  | belowMinimum bound | aboveMaximum bound => bound.repr

theorem text_eq (diagnostic : Diagnostic) :
    diagnostic.text = diagnostic.kind.lead ++ diagnostic.payload ++ diagnostic.kind.close := by
  cases diagnostic <;> rfl

theorem lead_isPrefix_text (diagnostic : Diagnostic) :
    diagnostic.kind.lead.toList <+: diagnostic.text.toList := by
  rw [text_eq, String.toList_append, String.toList_append, List.append_assoc]
  exact List.prefix_append _ _

theorem kind_eq_of_text_eq (h : diagnostic.text = other.text) :
    diagnostic.kind = other.kind := by
  have hlead := lead_isPrefix_text diagnostic
  rw [h] at hlead
  rcases List.prefix_or_prefix_of_prefix hlead (lead_isPrefix_text other) with hle | hle
  · exact Kind.eq_of_lead_isPrefix hle
  · exact (Kind.eq_of_lead_isPrefix hle).symm

theorem text_ne_text_notFound (h : ∀ line, diagnostic ≠ .notFound line) (line : String) :
    diagnostic.text ≠ (notFound line).text := by
  intro htext
  have hkind := kind_eq_of_text_eq htext
  cases diagnostic with
  | notFound found => exact h found rfl
  | _ => cases hkind

end Diagnostic

end CommandTree
