import CommandTree.Output.Console
import CommandTree.Proofs.Diagnostic.Kind
import CommandTree.Proofs.Dispatcher.Response
import Mathlib

/-!
# Wordings of diagnostics

The wording of a diagnostic tells its kind and what it carries: texts are shown as they are, and
numbers in decimal digits.  So the line that the user sees tells the whole diagnostic.
-/

namespace CommandTree

namespace Diagnostic

variable {diagnostic other : Diagnostic}

/-- The kind and what is carried make up a diagnostic. -/
theorem eq_of_kind_eq (hkind : diagnostic.kind = other.kind)
    (hpayload : diagnostic.payload = other.payload) : diagnostic = other := by
  cases diagnostic <;> cases other <;> cases hkind
  · exact congrArg notFound hpayload
  · exact congrArg missingArgument hpayload
  · exact congrArg patternMismatch hpayload
  · exact congrArg notInList hpayload
  · rfl
  · exact congrArg tooShort (Nat.repr_injective hpayload)
  · exact congrArg tooLong (Nat.repr_injective hpayload)
  · exact congrArg belowMinimum (Int.repr_injective hpayload)
  · exact congrArg aboveMaximum (Int.repr_injective hpayload)

/-- A diagnostic can be told from its wording. -/
theorem eq_of_text_eq (h : diagnostic.text = other.text) : diagnostic = other := by
  have hkind := kind_eq_of_text_eq h
  rw [text_eq, text_eq, hkind, String.append_left_inj, String.append_right_inj] at h
  exact eq_of_kind_eq hkind h

/-! ## What the user sees -/

theorem isEmpty_text (diagnostic : Diagnostic) : diagnostic.text.isEmpty = false := by
  rw [Bool.eq_false_iff, text_eq]
  simp [String.append_eq_empty_iff, Kind.lead_ne_empty]

/-- A report sends one message, however far the line has been read. -/
theorem messages_report (offset : Nat) (diagnostic : Diagnostic) :
    (Effect.report offset diagnostic).filterMap Effect.message? = [diagnostic.message] :=
  rfl

theorem line_message (console : Console) (diagnostic : Diagnostic) :
    console.line diagnostic.message = console.errorLead ++ diagnostic.text ++ "\n" := by
  simp [Console.line, message, Console.lead, isEmpty_text]

/-- Two diagnostics are the same if they are worded alike, if their reports send the same
messages, or if these look the same on a console: the line that the user sees tells why a value
or a line was refused, and what the refusal is about. -/
theorem report_tells_diagnostic (diagnostic other : Diagnostic) :
    (diagnostic.text = other.text ↔ diagnostic = other) ∧
    (∀ offset offset' : Nat,
      (Effect.report offset diagnostic).filterMap Effect.message? =
        (Effect.report offset' other).filterMap Effect.message? ↔ diagnostic = other) ∧
    ∀ console : Console,
      console.line diagnostic.message = console.line other.message ↔ diagnostic = other := by
  refine ⟨⟨eq_of_text_eq, congrArg text⟩, fun offset offset' => ?_, fun console => ?_⟩
  · rw [messages_report, messages_report]
    constructor
    · intro h
      exact eq_of_text_eq (congrArg Message.text (List.singleton_inj.mp h))
    · rintro rfl
      rfl
  · rw [line_message, line_message, String.append_left_inj, String.append_right_inj]
    exact ⟨eq_of_text_eq, congrArg text⟩

end Diagnostic

end CommandTree
