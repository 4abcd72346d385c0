import CommandTree.Argument.Value
import Std.Data.ExtTreeMap

/-!
# Bindings

The arguments found so far: a finite map from names to values, in the order of the
names.  Two maps with the same entries are equal, so that taking a binding back leads to
the very map that was there before (`restore_bind`).
-/

namespace CommandTree

abbrev Bindings := Std.ExtTreeMap String Value

namespace Bindings

def empty : Bindings := ∅

/-- Bind a name, in place of what it was bound to. -/
def bind (bindings : Bindings) (name : String) (value : Value) : Bindings :=
  bindings.insert name value

/-- Set a name back to what it was bound to before, if it was bound at all. -/
def restore (bindings : Bindings) (name : String) : Option Value → Bindings
  | some value => bindings.insert name value
  | none => bindings.erase name

/-- The text bound to a name. -/
def text? (bindings : Bindings) (name : String) : Option String :=
  bindings[name]?.bind Value.text?

/-- The number bound to a name. -/
def integer? (bindings : Bindings) (name : String) : Option Int :=
  bindings[name]?.bind Value.integer?

/-- Taking a binding back undoes it. -/
theorem restore_bind (bindings : Bindings) (name : String) (value : Value) :
    (bindings.bind name value).restore name bindings[name]? = bindings := by
  apply Std.ExtTreeMap.ext_getElem?
  intro other
  by_cases h : compare name other = .eq
  · obtain rfl : name = other := Std.LawfulEqOrd.eq_of_compare h
    cases hprev : bindings[name]? with
    | none => simp [bind, restore]
    | some value => simp [bind, restore]
  · cases hprev : bindings[name]? <;>
      simp [bind, restore, Std.ExtTreeMap.getElem?_insert, Std.ExtTreeMap.getElem?_erase, h]

end Bindings

end CommandTree
