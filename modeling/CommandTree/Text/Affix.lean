/-!
# Beginnings of texts

What is left of a text when a given beginning is taken off.
-/

namespace CommandTree.Text

/-- What follows the beginning `lead` in a text, if the text begins with it. -/
def after? : (lead text : List Char) → Option (List Char)
  | [], text => some text
  | _ :: _, [] => none
  | c :: lead, d :: text => if c = d then after? lead text else none

/-- A text begins with `lead` exactly if it is `lead` followed by something. -/
theorem after?_eq_some_iff {lead text rest : List Char} :
    after? lead text = some rest ↔ text = lead ++ rest := by
  fun_induction after? lead text with
  | case1 => simp
  | case2 => simp
  | case3 c lead text ih => simp [ih]
  | case4 c lead d text hne => simp [Ne.symm hne]

/-- The text that follows a beginning is found again. -/
@[simp] theorem after?_append (lead rest : List Char) :
    after? lead (lead ++ rest) = some rest :=
  after?_eq_some_iff.mpr rfl

end CommandTree.Text
