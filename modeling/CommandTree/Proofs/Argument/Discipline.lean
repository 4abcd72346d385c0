import CommandTree.Argument.Type
import Mathlib.Data.List.Basic

/-!
# What argument types promise

Matching relies on argument types to behave.  A type may be asked not to write the
bindings, which are the tree's to write (`KeepsBindings`), and to report nothing
but the reason of a refusal (`Disciplined`).  Numbers, texts, rests and the empty
text do both; the leaky type is disciplined, but it does write the bindings.

`IntegerType.read_cases` and `TextType.read_cases` list what the reading of a
number or a text can be.
-/

namespace CommandTree

/-! ## Readings of numbers and texts -/

theorem IntegerType.read_cases (type : IntegerType) (context : Context) :
    type.read context = .refused context [] ∨
    (∃ (number : Nat) (diagnostic : Diagnostic),
      type.check number = some diagnostic ∧
        type.read context = .refused context [diagnostic]) ∨
    ∃ (number : Nat) (cursor : Cursor),
      number ≤ largest ∧ type.check number = none ∧
        type.read context = .accepted context (.integer number) cursor := by
  simp only [read]
  split
  · exact .inl rfl
  · next hreadable =>
      split
      · next diagnostic hcheck => exact .inr (.inl ⟨_, diagnostic, hcheck, rfl⟩)
      · next hcheck =>
          have hsmall := (Bool.or_eq_false_iff.mp
            (Bool.eq_false_iff.mpr hreadable)).2
          exact .inr (.inr ⟨_, _, by simpa using hsmall, hcheck, rfl⟩)

theorem TextType.read_cases (type : TextType) (commands : List String)
    (context : Context) :
    type.read commands context = .refused context [] ∨
    (∃ (value : String) (diagnostic : Diagnostic),
      type.check commands value = some diagnostic ∧
        type.read commands context = .refused context [diagnostic]) ∨
    ∃ (value : String) (cursor : Cursor),
      type.check commands value = none ∧
        type.read commands context = .accepted context (.text value) cursor := by
  simp only [read]
  split
  · exact .inl rfl
  · split
    · next diagnostic hcheck => exact .inr (.inl ⟨_, diagnostic, hcheck, rfl⟩)
    · next hcheck => exact .inr (.inr ⟨_, _, hcheck, rfl⟩)

/-! ## The diagnostics of a refusal -/

/-- The diagnostics by which a type gives the reason of a refusal. -/
def Diagnostic.IsRejection : Diagnostic → Prop
  | notFound _ | missingArgument _ => False
  | _ => True

theorem IntegerType.isRejection_of_check {type : IntegerType} {number : Int}
    {diagnostic : Diagnostic} (h : type.check number = some diagnostic) :
    diagnostic.IsRejection := by
  unfold check at h
  split at h
  · obtain rfl := Option.some.inj h
    trivial
  · obtain ⟨bound, -, rfl⟩ := Option.map_eq_some_iff.mp h
    trivial

theorem Rule.isRejection_of_check {rule : Rule} {commands : List String}
    {value : String} {diagnostic : Diagnostic}
    (h : rule.check commands value = some diagnostic) : diagnostic.IsRejection := by
  cases rule <;>
  · simp only [check] at h
    split at h
    · simp at h
    · obtain rfl := Option.some.inj h
      trivial

theorem TextType.isRejection_of_check {type : TextType} {commands : List String}
    {value : String} {diagnostic : Diagnostic}
    (h : type.check commands value = some diagnostic) : diagnostic.IsRejection := by
  rcases Option.or_eq_some_iff.mp h with hrule | ⟨-, hlength⟩
  · obtain ⟨rule, -, hcheck⟩ := Option.bind_eq_some_iff.mp hrule
    exact Rule.isRejection_of_check hcheck
  · unfold checkLength at hlength
    split at hlength
    · obtain rfl := Option.some.inj hlength
      trivial
    · obtain ⟨bound, -, rfl⟩ := Option.map_eq_some_iff.mp hlength
      trivial

/-! ## Orderly readings -/

/-- The readings of a type that changes nothing but the cursor, and that only to
accept. -/
inductive Reading.Orderly (context : Context) : Reading → Prop where
  | missing : Orderly context (.refused context [])
  | rejected {diagnostic : Diagnostic} (hrejection : diagnostic.IsRejection) :
      Orderly context (.refused context [diagnostic])
  | accepted (value : Value) (cursor : Cursor) :
      Orderly context (.accepted context value cursor)

namespace Reading.Orderly

variable {context : Context} {reading : Reading}

theorem bindings_eq (h : reading.Orderly context) :
    reading.context.bindings = context.bindings := by
  cases h <;> rfl

theorem reports_eq_nil (h : reading.Orderly context) {value : Value}
    (hvalue : reading.value? = some value) : reading.reports = [] := by
  cases h with
  | missing => rfl
  | rejected hrejection => simp [Reading.refused] at hvalue
  | accepted value cursor => rfl

theorem length_reports_le (h : reading.Orderly context) :
    reading.reports.length ≤ 1 := by
  cases h <;> simp [Reading.refused, Reading.accepted]

theorem isRejection_of_mem (h : reading.Orderly context) {diagnostic : Diagnostic}
    (hmem : diagnostic ∈ reading.reports) : diagnostic.IsRejection := by
  cases h with
  | missing => simp [Reading.refused] at hmem
  | rejected hrejection =>
      obtain rfl := List.mem_singleton.mp hmem
      exact hrejection
  | accepted value cursor => simp [Reading.accepted] at hmem

end Reading.Orderly

theorem IntegerType.orderly_read (type : IntegerType) (context : Context) :
    (type.read context).Orderly context := by
  rcases type.read_cases context with
    hread | ⟨_, _, hcheck, hread⟩ | ⟨_, _, _, _, hread⟩
  · exact hread ▸ .missing
  · exact hread ▸ .rejected (isRejection_of_check hcheck)
  · exact hread ▸ .accepted _ _

theorem TextType.orderly_read (type : TextType) (commands : List String)
    (context : Context) : (type.read commands context).Orderly context := by
  rcases type.read_cases commands context with
    hread | ⟨_, _, hcheck, hread⟩ | ⟨_, _, _, hread⟩
  · exact hread ▸ .missing
  · exact hread ▸ .rejected (isRejection_of_check hcheck)
  · exact hread ▸ .accepted _ _

/-- What there is to a reading besides the bindings. -/
def Reading.outcome (reading : Reading) : Option Value × Cursor × List Diagnostic :=
  (reading.value?, reading.context.cursor, reading.reports)

namespace ArgumentType

/-! ## Keeping the bindings -/

/-- The type reads values without touching the bindings. -/
def KeepsBindings (type : ArgumentType) : Prop :=
  ∀ commands context,
    (type.read commands context).context.bindings = context.bindings

theorem keepsBindings_of_orderly {type : ArgumentType}
    (horderly : ∀ commands context, (type.read commands context).Orderly context) :
    type.KeepsBindings :=
  fun commands context => (horderly commands context).bindings_eq

theorem keepsBindings_integer (type : IntegerType) : (integer type).KeepsBindings :=
  keepsBindings_of_orderly fun _ context => type.orderly_read context

theorem keepsBindings_text (type : TextType) : (text type).KeepsBindings :=
  keepsBindings_of_orderly type.orderly_read

theorem keepsBindings_rest : rest.KeepsBindings := fun _ _ => rfl

theorem keepsBindings_nothing : nothing.KeepsBindings := fun _ _ => rfl

/-! ## Discipline -/

/-- The contract of a type: what it makes of a line depends on the cursor alone,
and the only thing it reports is the reason why it refuses. -/
structure Disciplined (type : ArgumentType) : Prop where
  cursorOnly : ∀ commands {context other : Context},
    context.cursor = other.cursor →
      (type.read commands context).outcome = (type.read commands other).outcome
  silent : ∀ commands context {value},
    (type.read commands context).value? = some value →
      (type.read commands context).reports = []
  atMostOne : ∀ commands context,
    (type.read commands context).reports.length ≤ 1
  rejections : ∀ commands context {diagnostic},
    diagnostic ∈ (type.read commands context).reports → diagnostic.IsRejection

/-- A disciplined type reports its first diagnostic and no other. -/
theorem Disciplined.toList_head?_reports {type : ArgumentType}
    (h : type.Disciplined) (commands : List String) (context : Context) :
    (type.read commands context).reports.head?.toList =
      (type.read commands context).reports := by
  have hlength := h.atMostOne commands context
  rcases hreports : (type.read commands context).reports with
    _ | ⟨diagnostic, _ | ⟨second, rest⟩⟩
  · rfl
  · rfl
  · simp [hreports] at hlength

section

variable {type : ArgumentType}
  (hcursor : ∀ commands {context other : Context}, context.cursor = other.cursor →
    (type.read commands context).outcome = (type.read commands other).outcome)

include hcursor

theorem disciplined_of_orderly
    (horderly : ∀ commands context, (type.read commands context).Orderly context) :
    type.Disciplined where
  cursorOnly := hcursor
  silent commands context _ hvalue := (horderly commands context).reports_eq_nil hvalue
  atMostOne commands context := (horderly commands context).length_reports_le
  rejections commands context _ hmem :=
    (horderly commands context).isRejection_of_mem hmem

theorem disciplined_of_silent
    (hsilent : ∀ commands context, (type.read commands context).reports = []) :
    type.Disciplined where
  cursorOnly := hcursor
  silent commands context _ _ := hsilent commands context
  atMostOne commands context := by simp [hsilent]
  rejections commands context _ hmem := by simp [hsilent] at hmem

end

theorem disciplined_integer (type : IntegerType) : (integer type).Disciplined := by
  refine disciplined_of_orderly ?_ fun _ context => type.orderly_read context
  intro commands context other hcursor
  simp only [read, IntegerType.read, hcursor]
  split
  · simp [Reading.outcome, Reading.refused, hcursor]
  · split
    · simp [Reading.outcome, Reading.refused, hcursor]
    · rfl

theorem disciplined_text (type : TextType) : (text type).Disciplined := by
  refine disciplined_of_orderly ?_ type.orderly_read
  intro commands context other hcursor
  simp only [read, TextType.read, hcursor]
  split
  · simp [Reading.outcome, Reading.refused, hcursor]
  · split
    · simp [Reading.outcome, Reading.refused, hcursor]
    · rfl

theorem disciplined_rest : rest.Disciplined := by
  refine disciplined_of_silent ?_ fun _ _ => rfl
  intro commands context other hcursor
  simp [read, rest, Reading.outcome, Reading.accepted, Context.moveTo, hcursor]

theorem disciplined_nothing : nothing.Disciplined := by
  refine disciplined_of_silent ?_ fun _ _ => rfl
  intro commands context other hcursor
  simp [read, nothing, Reading.outcome, Reading.accepted, Context.moveTo, hcursor]

theorem disciplined_leaky : leaky.Disciplined := by
  refine disciplined_of_silent ?_ fun _ _ => rfl
  intro commands context other hcursor
  simp [read, leaky, Reading.outcome, Reading.refused, Context.bind, Context.moveTo,
    hcursor]

end ArgumentType

end CommandTree
