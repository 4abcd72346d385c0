import CommandTree.Proofs.Argument.Admission
import CommandTree.Proofs.Node.Path

/-!
# Where bindings come from

At the end of a path each name is bound to what the last argument of that name read.
If the argument types of the tree are types of numbers and of texts, that argument
also admits the value; and no other value is ever bound, not even in a branch that
fails later on.
-/

namespace CommandTree

variable {α : Type} {commands : List String}

/-- The leg is an argument of the given name, and its type reads there the given
value, which it admits. -/
def Leg.Provides (commands : List String) (name : String) (value : Value)
    (leg : Leg α) : Prop :=
  ∃ type, leg.node.kind = .argument name type ∧
    (type.read commands leg.before).value? = some value ∧
    type.Admits commands value

theorem Leg.entry?_eq_some_iff {leg : Leg α} {name : String} {value : Value} :
    leg.entry? commands = some (name, value) ↔
      ∃ type, leg.node.kind = .argument name type ∧
        (type.read commands leg.before).value? = some value := by
  unfold entry?
  split
  · next other type hkind =>
      constructor
      · intro hentry
        obtain ⟨found, hvalue, heq⟩ := Option.map_eq_some_iff.mp hentry
        obtain ⟨rfl, rfl⟩ := Prod.mk.injEq .. ▸ heq
        exact ⟨type, hkind, hvalue⟩
      · rintro ⟨type', hkind', hvalue⟩
        rw [hkind] at hkind'
        cases hkind'
        rw [hvalue, Option.map_some]
  · next hother =>
      constructor
      · simp
      · rintro ⟨type, hkind, -⟩
        exact absurd hkind (hother name type)

/-! ## Look-ups -/

namespace Bindings

variable {bindings : Bindings} {leg : Leg α} {rest : List (Leg α)}

theorem along_cons_of_entry?_none (hentry : leg.entry? commands = none) :
    along commands bindings (leg :: rest) = along commands bindings rest := by
  simp [along, hentry]

theorem along_cons_of_entry?_some {name : String} {value : Value}
    (hentry : leg.entry? commands = some (name, value)) :
    along commands bindings (leg :: rest) =
      along commands (bindings.insert name value) rest := by
  simp [along, hentry]

/-- A name that nothing on a path binds is bound as before the path. -/
theorem getElem?_along_of_forall_ne {legs : List (Leg α)} {name : String}
    (h : ∀ leg ∈ legs, ∀ value, leg.entry? commands ≠ some (name, value)) :
    (along commands bindings legs)[name]? = bindings[name]? := by
  induction legs generalizing bindings with
  | nil => rfl
  | cons leg rest ih =>
      have hrest : ∀ later ∈ rest, ∀ value,
          later.entry? commands ≠ some (name, value) :=
        fun later hlater => h later (List.mem_cons_of_mem leg hlater)
      cases hentry : leg.entry? commands with
      | none => rw [along_cons_of_entry?_none hentry, ih hrest]
      | some entry =>
          have hne : entry.1 ≠ name := by
            rintro rfl
            exact h leg List.mem_cons_self entry.2 hentry
          rw [along_cons_of_entry?_some hentry, ih hrest]
          simp [Std.ExtTreeMap.getElem?_insert, hne]

/-- A name is bound to what the last leg that binds it binds it to. -/
theorem getElem?_along_of_last {front back : List (Leg α)} {name : String}
    {value : Value} (hleg : leg.entry? commands = some (name, value))
    (hback : ∀ later ∈ back, ∀ other, later.entry? commands ≠ some (name, other)) :
    (along commands bindings (front ++ leg :: back))[name]? = some value := by
  rw [along_append, along_cons_of_entry?_some hleg,
    getElem?_along_of_forall_ne hback]
  exact Std.ExtTreeMap.getElem?_insert_self

/-- Either nothing on a path binds a name, or there is a last leg that does. -/
theorem forall_ne_or_exists_last (commands : List String) (legs : List (Leg α))
    (name : String) :
    (∀ leg ∈ legs, ∀ value, leg.entry? commands ≠ some (name, value)) ∨
    ∃ front leg back value, legs = front ++ leg :: back ∧
      leg.entry? commands = some (name, value) ∧
      ∀ later ∈ back, ∀ other, later.entry? commands ≠ some (name, other) := by
  induction legs with
  | nil => exact .inl (by simp)
  | cons leg rest ih =>
      rcases ih with hnone | ⟨front, last, back, value, rfl, hlast⟩
      · by_cases hleg : ∃ value, leg.entry? commands = some (name, value)
        · obtain ⟨value, hvalue⟩ := hleg
          exact .inr ⟨[], leg, rest, value, rfl, hvalue, hnone⟩
        · refine .inl ?_
          intro other hother value hvalue
          rcases List.mem_cons.mp hother with rfl | hmem
          · exact hleg ⟨value, hvalue⟩
          · exact hnone other hmem value hvalue
      · exact .inr ⟨leg :: front, last, back, value, rfl, hlast⟩

end Bindings

/-! ## The arguments on a path -/

theorem Node.argument?_eq_some_iff {node : Node α} {name : String} :
    node.argument? = some name ↔ ∃ type, node.kind = .argument name type := by
  unfold argument?
  cases node.kind <;> simp [NodeKind.argument?]

/-- A leg that is entered binds a name exactly if it is an argument with that name. -/
theorem Leg.exists_entry?_iff {leg : Leg α}
    (henter : leg.node.enter? commands leg.before = some leg.after) {name : String} :
    (∃ value, leg.entry? commands = some (name, value)) ↔
      leg.node.argument? = some name := by
  rw [Node.argument?_eq_some_iff]
  constructor
  · rintro ⟨value, hentry⟩
    obtain ⟨type, hkind, -⟩ := entry?_eq_some_iff.mp hentry
    exact ⟨type, hkind⟩
  · rintro ⟨type, hkind⟩
    obtain ⟨value, hvalue, -⟩ := Node.exists_value_of_enter?_argument hkind henter
    exact ⟨value, entry?_eq_some_iff.mpr ⟨type, hkind, hvalue⟩⟩

namespace Node

variable {node : Node α} {context : Context} {path : List Nat} {legs : List (Leg α)}

/-- The legs of a path are nodes of the tree, each of which is entered. -/
theorem Accepts.entered_of_mem (h : Accepts commands node context path legs)
    {leg : Leg α} (hmem : leg ∈ legs) :
    leg.node ∈ node.nodes ∧ leg.node.enter? commands leg.before = some leg.after := by
  induction h with
  | ends henter =>
      obtain rfl := List.mem_singleton.mp hmem
      exact ⟨self_mem_nodes _, henter⟩
  | passes henter _ hchild _ ih =>
      rcases List.mem_cons.mp hmem with rfl | hbelow
      · exact ⟨self_mem_nodes _, henter⟩
      · obtain ⟨hnode, henter'⟩ := ih hbelow
        exact ⟨mem_nodes_of_mem_child (List.mem_of_getElem? hchild) hnode, henter'⟩

/-- At the end of a path a name is unbound if no argument on the path has it, and
otherwise it is bound to what the last such argument provides. -/
theorem Accepts.unbound_or_provided
    (h : Accepts commands node context path legs)
    (htypes : node.AllTypes ArgumentType.IsStandard)
    (hempty : context.bindings = ∅) {last : Leg α}
    (hlast : legs.getLast? = some last) (name : String) :
    (last.after.bindings[name]? = none ∧
      ∀ leg ∈ legs, leg.node.argument? ≠ some name) ∨
    ∃ front leg back value, last.after.bindings[name]? = some value ∧
      legs = front ++ leg :: back ∧ leg.Provides commands name value ∧
      ∀ later ∈ back, later.node.argument? ≠ some name := by
  have hkeep := htypes.mono fun _ htype => htype.keepsBindings
  rw [h.bindings_eq_along hkeep hlast, hempty]
  have hne : ∀ leg ∈ legs, (∀ value, leg.entry? commands ≠ some (name, value)) →
      leg.node.argument? ≠ some name := by
    intro leg hmem hentry hname
    obtain ⟨value, hvalue⟩ :=
      (Leg.exists_entry?_iff (h.entered_of_mem hmem).2).mpr hname
    exact hentry value hvalue
  rcases Bindings.forall_ne_or_exists_last commands legs name with
    hnone | ⟨front, leg, back, value, rfl, hentry, hback⟩
  · refine .inl ⟨?_, fun leg hmem => hne leg hmem (hnone leg hmem)⟩
    rw [Bindings.getElem?_along_of_forall_ne hnone]
    simp
  · refine .inr ⟨front, leg, back, value, ?_, rfl, ?_, ?_⟩
    · exact Bindings.getElem?_along_of_last hentry hback
    · obtain ⟨type, hkind, hvalue⟩ := Leg.entry?_eq_some_iff.mp hentry
      have hmem : leg ∈ front ++ leg :: back := by simp
      have htype := htypes leg.node (h.entered_of_mem hmem).1 name type hkind
      exact ⟨type, hkind, hvalue, htype.admits hvalue⟩
    · intro later hmem
      exact hne later (by simp [hmem]) (hback later hmem)

/-! ## The values that are bound -/

/-- In every branch that is tried, a value is bound only if an argument of that name
reads it and its type admits it. -/
theorem provided_of_mem_events (htypes : node.AllTypes ArgumentType.IsStandard)
    {name : String} {value : Value}
    (hbound : Event.bound name value ∈ (node.walk commands context).events) :
    ∃ leg : Leg α, leg.node ∈ node.nodes ∧
      leg.node.enter? commands leg.before = some leg.after ∧
      leg.Provides commands name value := by
  refine forall_events_walk (P := fun event => ∀ name value,
    event = .bound name value → ∃ leg : Leg α, leg.node ∈ node.nodes ∧
      leg.node.enter? commands leg.before = some leg.after ∧
      leg.Provides commands name value) ?_ ?_ context _ hbound name value rfl
  · rintro part hpart state diagnostic hmem name value ⟨⟩
  · intro part hpart state next henter event hevent name value heq
    subst heq
    refine ⟨⟨part, state, next⟩, hpart, henter, ?_⟩
    cases hkind : part.kind with
    | root => simp [entryEvents, hkind] at hevent
    | literal token => simp [entryEvents, hkind] at hevent
    | argument other type =>
        obtain ⟨found, hvalue, -⟩ := exists_value_of_enter?_argument hkind henter
        obtain ⟨rfl, rfl⟩ : name = other ∧ value = found := by
          simpa [entryEvents, hkind, hvalue] using hevent
        exact ⟨type, hkind, hvalue, (htypes part hpart name type hkind).admits hvalue⟩

end Node

end CommandTree
