/-!
# Widths

Offsets into a line count the bytes of its UTF-8 form.  The *width* of a text is
the number of bytes it takes there.
-/

namespace CommandTree.Text

/-- The number of bytes of a text in UTF-8. -/
def width (text : List Char) : Nat :=
  text.foldr (fun c size => c.utf8Size + size) 0

@[simp] theorem width_nil : width [] = 0 := rfl

@[simp] theorem width_cons (c : Char) (text : List Char) :
    width (c :: text) = c.utf8Size + width text := rfl

@[simp] theorem width_append (first second : List Char) :
    width (first ++ second) = width first + width second := by
  induction first with
  | nil => simp
  | cons c first ih => simp [ih, Nat.add_assoc]

/-- Cut a text after the given number of bytes.  There is no cut inside a character or
past the end. -/
def splitAtWidth? : Nat → List Char → Option (List Char × List Char)
  | 0, text => some ([], text)
  | _ + 1, [] => none
  | n + 1, c :: text =>
    if c.utf8Size ≤ n + 1 then
      (splitAtWidth? (n + 1 - c.utf8Size) text).map fun cut => (c :: cut.1, cut.2)
    else none

/-- A cut loses nothing and comes after the bytes asked for. -/
theorem append_eq_of_splitAtWidth? {n : Nat} {text front back : List Char}
    (h : splitAtWidth? n text = some (front, back)) :
    front ++ back = text ∧ width front = n := by
  fun_induction splitAtWidth? n text generalizing front with
  | case1 text =>
    obtain ⟨rfl, rfl⟩ := by simpa using h
    exact ⟨rfl, rfl⟩
  | case2 => simp at h
  | case3 n c text hle ih =>
    obtain ⟨⟨front', back'⟩, hcut, heq⟩ := Option.map_eq_some_iff.mp h
    obtain ⟨rfl, rfl⟩ := by simpa using heq
    obtain ⟨happ, hwidth⟩ := ih hcut
    refine ⟨by simp [happ], ?_⟩
    rw [width_cons, hwidth]
    omega
  | case4 => simp at h

end CommandTree.Text
