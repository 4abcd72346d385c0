import CommandTree.Proofs.Json.Number
import CommandTree.Proofs.Json.String

/-!
# What is read from JSON was written

A reader of documents that succeeds has taken a text that writes the document which it gives
(`Json.sound`).  The readers call each other with less fuel, so this is shown for all of them
at once, by induction on the fuel.
-/

namespace CommandTree.Json

open Text Text.Reader

variable {text rest : List Char} {document : Json}

/-! ## Spaces and commas -/

/-- All space at the front of a text is skipped. -/
theorem exists_run_space (text : List Char) :
    ∃ before more, text = before ++ more ∧ IsSpace before ∧ space.run text = some ((), more) := by
  refine ⟨_, _, List.takeWhile_append_dropWhile.symm, fun c hc => ?_, run_dropWhile⟩
  simpa [or_assoc] using List.mem_takeWhile_imp hc

theorem exists_of_run_space {done : Unit} (h : space.run text = some (done, rest)) :
    ∃ before, text = before ++ rest ∧ IsSpace before := by
  obtain ⟨before, more, htext, hbefore, hrun⟩ := exists_run_space text
  obtain ⟨-, rfl⟩ : () = done ∧ more = rest := by simpa [hrun] using h
  exact ⟨before, htext, hbefore⟩

@[simp] theorem separated_singleton (part : List Char) : separated [part] = part := by
  simp [separated]

theorem append_separated_cons (before part : List Char) (parts : List (List Char)) :
    separated ((before ++ part) :: parts) = before ++ separated (part :: parts) := by
  cases parts <;> simp [separated]

theorem separated_cons {part : List Char} {parts : List (List Char)} (hne : parts ≠ []) :
    separated (part :: parts) = part ++ ',' :: separated parts := by
  obtain ⟨other, more, rfl⟩ := List.exists_cons_of_ne_nil hne
  simp [separated]

/-! ## Rows of elements and of members -/

/-- A text writes one or more elements of an array. -/
def WritesElements (text : List Char) (elements : List Json) : Prop :=
  ∃ parts : List (List Char × Json), parts ≠ [] ∧ (∀ part ∈ parts, Writes part.1 part.2) ∧
    text = separated (parts.map Prod.fst) ∧ elements = parts.map Prod.snd

/-- A text writes one or more members of an object. -/
def WritesMembers (text : List Char) (found : List (Option String × Json)) : Prop :=
  ∃ members : List WrittenMember, members ≠ [] ∧
    (∀ member ∈ members, member.IsKeyed ∧ Writes member.valueText member.value) ∧
    text = separated (members.map WrittenMember.text) ∧
    found = members.map fun member => (member.key, member.value)

theorem isSpace_nil : IsSpace [] := by
  simp [IsSpace]

theorem IsSpace.append {before after : List Char} (hbefore : IsSpace before)
    (hafter : IsSpace after) : IsSpace (before ++ after) := by
  intro c hc
  exact (List.mem_append.mp hc).elim (hbefore c) (hafter c)

namespace WritesElements

variable {elements : List Json}

theorem single (h : Writes text document) : WritesElements text [document] :=
  ⟨[(text, document)], List.cons_ne_nil _ _, by simpa using h, by simp, rfl⟩

theorem cons {written : List Char} (hfirst : Writes written document)
    (h : WritesElements text elements) :
    WritesElements (written ++ ',' :: text) (document :: elements) := by
  obtain ⟨parts, hne, hparts, rfl, rfl⟩ := h
  refine ⟨(written, document) :: parts, List.cons_ne_nil _ _,
    List.forall_mem_cons.mpr ⟨hfirst, hparts⟩, ?_, rfl⟩
  rw [List.map_cons, separated_cons (by simpa using hne)]

/-- Space before the elements is space before the first. -/
theorem spaced {before : List Char} (hbefore : IsSpace before)
    (h : WritesElements text elements) : WritesElements (before ++ text) elements := by
  obtain ⟨_ | ⟨⟨written, first⟩, parts⟩, hne, hparts, rfl, rfl⟩ := h
  · exact absurd rfl hne
  · obtain ⟨hfirst, hparts⟩ := List.forall_mem_cons.mp hparts
    have hspaced : Writes (before ++ written) first := by
      simpa using Writes.spaced hbefore isSpace_nil hfirst
    refine ⟨(before ++ written, first) :: parts, List.cons_ne_nil _ _,
      List.forall_mem_cons.mpr ⟨hspaced, hparts⟩, ?_, rfl⟩
    rw [List.map_cons, List.map_cons, append_separated_cons]

theorem writes (h : WritesElements text elements) :
    Writes ('[' :: (text ++ [']'])) (.array elements) := by
  obtain ⟨parts, hne, hparts, rfl, rfl⟩ := h
  exact .array hne hparts

end WritesElements

namespace WritesMembers

variable {found : List (Option String × Json)} {member : WrittenMember}

theorem single (hkey : member.IsKeyed) (hvalue : Writes member.valueText member.value) :
    WritesMembers member.text [(member.key, member.value)] :=
  ⟨[member], List.cons_ne_nil _ _, by simpa using ⟨hkey, hvalue⟩, by simp, rfl⟩

theorem cons (hkey : member.IsKeyed) (hvalue : Writes member.valueText member.value)
    (h : WritesMembers text found) :
    WritesMembers (member.text ++ ',' :: text) ((member.key, member.value) :: found) := by
  obtain ⟨members, hne, hmembers, rfl, rfl⟩ := h
  refine ⟨member :: members, List.cons_ne_nil _ _,
    List.forall_mem_cons.mpr ⟨⟨hkey, hvalue⟩, hmembers⟩, ?_, rfl⟩
  rw [List.map_cons, separated_cons (by simpa using hne)]

/-- Space before the members is space before the key of the first. -/
theorem spaced {before : List Char} (hbefore : IsSpace before) (h : WritesMembers text found) :
    WritesMembers (before ++ text) found := by
  obtain ⟨_ | ⟨first, members⟩, hne, hmembers, rfl, rfl⟩ := h
  · exact absurd rfl hne
  · obtain ⟨⟨hkey, hvalue⟩, hmembers⟩ := List.forall_mem_cons.mp hmembers
    let spaced : WrittenMember := { first with before := before ++ first.before }
    have hspaced : spaced.IsKeyed := ⟨hbefore.append hkey.before, hkey.key, hkey.between⟩
    refine ⟨spaced :: members, List.cons_ne_nil _ _,
      List.forall_mem_cons.mpr ⟨⟨hspaced, hvalue⟩, hmembers⟩, ?_, rfl⟩
    have htext : spaced.text = before ++ first.text := by
      simp [spaced, WrittenMember.text]
    rw [List.map_cons, List.map_cons, htext, append_separated_cons]

theorem writes (h : WritesMembers text found) :
    Writes ('\x7b' :: (text ++ ['\x7d'])) (.object found) := by
  obtain ⟨members, hne, hmembers, rfl, rfl⟩ := h
  exact .object hne (fun member hmember => (hmembers member hmember).1)
    fun member hmember => (hmembers member hmember).2

end WritesMembers

/-! ## What readers take -/

/-- What the reader takes writes the document that it gives. -/
def ReadsWritten (reader : Text.Reader Json) : Prop :=
  ∀ text rest document, reader.run text = some (document, rest) →
    ∃ written, text = written ++ rest ∧ Writes written document

/-- What the reader takes writes the elements that it gives and closes their array. -/
def ReadsElements (reader : Text.Reader (List Json)) : Prop :=
  ∀ text rest elements, reader.run text = some (elements, rest) →
    ∃ written, text = written ++ ']' :: rest ∧ WritesElements written elements

/-- What the reader takes writes the members that it gives and closes their object. -/
def ReadsMembers (reader : Text.Reader (List (Option String × Json))) : Prop :=
  ∀ text rest found, reader.run text = some (found, rest) →
    ∃ written, text = written ++ '\x7d' :: rest ∧ WritesMembers written found

theorem readsWritten_simple : ReadsWritten simple := by
  intro text rest document h
  rw [simple, run_bind_of_eq_some run_peek?] at h
  split at h
  · next hquote =>
      obtain ⟨more, rfl⟩ := List.head?_eq_some_iff.mp hquote
      obtain ⟨value, hvalue, rfl⟩ : ∃ value,
          stringBody.run more = some (value, rest) ∧ Json.string value = document := by
        rw [run_bind_of_eq_some (run_next_eq_some_iff.mpr rfl)] at h
        simpa using h
      obtain ⟨body, rfl, hwrites⟩ := exists_of_run_stringBody hvalue
      exact ⟨'"' :: (body ++ ['"']), by simp, .string hwrites⟩
  · obtain ⟨_, middle, hword, h⟩ := run_bind_eq_some_iff.mp h
    obtain ⟨rfl, rfl⟩ : Json.null = document ∧ middle = rest := by simpa using h
    exact ⟨_, run_expect_eq_some_iff.mp hword, .null⟩
  · obtain ⟨_, middle, hword, h⟩ := run_bind_eq_some_iff.mp h
    obtain ⟨rfl, rfl⟩ : Json.scalar = document ∧ middle = rest := by simpa using h
    exact ⟨_, run_expect_eq_some_iff.mp hword, .yes⟩
  · obtain ⟨_, middle, hword, h⟩ := run_bind_eq_some_iff.mp h
    obtain ⟨rfl, rfl⟩ : Json.scalar = document ∧ middle = rest := by simpa using h
    exact ⟨_, run_expect_eq_some_iff.mp hword, .no⟩
  · obtain ⟨_, middle, hnumber, h⟩ := run_bind_eq_some_iff.mp h
    obtain ⟨rfl, rfl⟩ : Json.scalar = document ∧ middle = rest := by simpa using h
    obtain ⟨written, rfl, hwritten⟩ := exists_isNumber_of_run_number hnumber
    exact ⟨written, rfl, .number hwritten⟩

theorem readsWritten_value {fuel : Nat} (hbare : ReadsWritten (bare fuel)) :
    ReadsWritten (value (fuel + 1)) := by
  intro text rest document h
  simp only [value, run_bind_eq_some_iff] at h
  obtain ⟨_, middle, hlead, found, later, hfound, _, last, htail, hdone⟩ := h
  obtain ⟨rfl, rfl⟩ : found = document ∧ last = rest := by simpa using hdone
  obtain ⟨before, rfl, hbefore⟩ := exists_of_run_space hlead
  obtain ⟨written, rfl, hwrites⟩ := hbare _ _ _ hfound
  obtain ⟨after, rfl, hafter⟩ := exists_of_run_space htail
  exact ⟨before ++ (written ++ after), by simp, .spaced hbefore hafter hwrites⟩

/-- After a part comes a comma and further parts, or the closing bracket. -/
theorem exists_of_run_row {α : Type} {close : String} {first : α} {row : Text.Reader (List α)}
    {found : List α}
    (h : (do
      if ← skip "," then return first :: (← row)
      expect close
      return [first] : Text.Reader (List α)).run text = some (found, rest)) :
    (∃ more later, text = ',' :: more ∧ row.run more = some (later, rest) ∧
      found = first :: later) ∨ text = close.toList ++ rest ∧ found = [first] := by
  rw [run_bind_eq_some_iff] at h
  obtain ⟨skipped, more, hskip, h⟩ := h
  cases skipped with
  | true =>
      obtain rfl := run_skip_eq_some_true_iff.mp hskip
      obtain ⟨later, hlater, rfl⟩ : ∃ later,
          row.run more = some (later, rest) ∧ first :: later = found := by
        simpa using h
      exact .inl ⟨more, later, rfl, hlater, rfl⟩
  | false =>
      obtain rfl := eq_of_run_skip_eq_some_false hskip
      obtain ⟨⟨_, hclose⟩, rfl⟩ :
          (∃ done, (expect close).run text = some (done, rest)) ∧ [first] = found := by
        simpa using h
      exact .inr ⟨run_expect_eq_some_iff.mp hclose, rfl⟩

theorem readsElements {fuel : Nat} (hvalue : ReadsWritten (value fuel))
    (helements : ReadsElements (elements fuel)) : ReadsElements (elements (fuel + 1)) := by
  intro text rest found h
  rw [elements, run_bind_eq_some_iff] at h
  obtain ⟨first, middle, hfirst, h⟩ := h
  obtain ⟨written, rfl, hwrites⟩ := hvalue _ _ _ hfirst
  rcases exists_of_run_row h with ⟨more, later, rfl, hlater, rfl⟩ | ⟨rfl, rfl⟩
  · obtain ⟨others, rfl, hothers⟩ := helements _ _ _ hlater
    exact ⟨written ++ ',' :: others, by simp, .cons hwrites hothers⟩
  · exact ⟨written, rfl, .single hwrites⟩

theorem readsMembers {fuel : Nat} (hvalue : ReadsWritten (value fuel))
    (hmembers : ReadsMembers (members fuel)) : ReadsMembers (members (fuel + 1)) := by
  intro text rest found h
  rw [members] at h
  obtain ⟨_, _, hlead, hopening⟩ := run_bind_eq_some_iff.mp h
  obtain ⟨_, _, hquote, hrun⟩ := run_bind_eq_some_iff.mp hopening
  obtain ⟨key, _, hkey, hclosing⟩ := run_bind_eq_some_iff.mp hrun
  obtain ⟨_, _, hgap, hsign⟩ := run_bind_eq_some_iff.mp hclosing
  obtain ⟨_, _, hcolon, hdocument⟩ := run_bind_eq_some_iff.mp hsign
  obtain ⟨first, middle, hfirst, hrow⟩ := run_bind_eq_some_iff.mp hdocument
  obtain ⟨before, rfl, hbefore⟩ := exists_of_run_space hlead
  obtain rfl := run_expect_eq_some_iff.mp hquote
  obtain ⟨body, rfl, hwritten⟩ := exists_of_run_stringBody hkey
  obtain ⟨between, rfl, hbetween⟩ := exists_of_run_space hgap
  obtain rfl := run_expect_eq_some_iff.mp hcolon
  obtain ⟨valueText, rfl, hwrites⟩ := hvalue _ _ _ hfirst
  let member : WrittenMember :=
    { before, keyText := '"' :: (body ++ ['"']), between, valueText, key, value := first }
  have hkeyed : member.IsKeyed := ⟨hbefore, hwritten, hbetween⟩
  have htext : before ++ ("\"".toList ++ (body ++ '"' :: (between ++
      (":".toList ++ (valueText ++ middle))))) = member.text ++ middle := by
    simp [member, WrittenMember.text]
  rw [htext]
  rcases exists_of_run_row hrow with ⟨more, later, rfl, hlater, rfl⟩ | ⟨rfl, rfl⟩
  · obtain ⟨others, rfl, hothers⟩ := hmembers _ _ _ hlater
    exact ⟨member.text ++ ',' :: others, by simp, .cons hkeyed hwrites hothers⟩
  · exact ⟨member.text, rfl, .single hkeyed hwrites⟩

/-- After an opening bracket the parts are read, unless it is closed at once. -/
theorem exists_of_run_parts {α : Type} {close : String} {empty : Json} {parts : Text.Reader α}
    {make : α → Json}
    (h : (do
      space
      if ← skip close then return empty
      return make (← parts) : Text.Reader Json).run text = some (document, rest)) :
    ∃ before later, text = before ++ later ∧ IsSpace before ∧
      ((later = close.toList ++ rest ∧ document = empty) ∨
        ∃ found, parts.run later = some (found, rest) ∧ document = make found) := by
  simp only [run_bind_eq_some_iff] at h
  obtain ⟨_, later, hlead, skipped, middle, hskip, h⟩ := h
  obtain ⟨before, rfl, hbefore⟩ := exists_of_run_space hlead
  refine ⟨before, later, rfl, hbefore, ?_⟩
  cases skipped with
  | true =>
      obtain ⟨rfl, rfl⟩ : empty = document ∧ middle = rest := by simpa using h
      exact .inl ⟨run_skip_eq_some_true_iff.mp hskip, rfl⟩
  | false =>
      obtain rfl := eq_of_run_skip_eq_some_false hskip
      obtain ⟨found, hfound, rfl⟩ : ∃ found,
          parts.run later = some (found, rest) ∧ make found = document := by
        simpa using h
      exact .inr ⟨found, hfound, rfl⟩

theorem readsWritten_bare {fuel : Nat} (helements : ReadsElements (elements fuel))
    (hmembers : ReadsMembers (members fuel)) : ReadsWritten (bare (fuel + 1)) := by
  intro text rest document h
  rw [bare, run_bind_of_eq_some run_peek?] at h
  split at h
  · next hbrace =>
      obtain ⟨more, rfl⟩ := List.head?_eq_some_iff.mp hbrace
      rw [run_bind_of_eq_some (run_next_eq_some_iff.mpr rfl)] at h
      obtain ⟨before, later, rfl, hbefore, ⟨rfl, rfl⟩ | ⟨found, hfound, rfl⟩⟩ :=
        exists_of_run_parts h
      · exact ⟨'\x7b' :: (before ++ ['\x7d']), by simp, .emptyObject hbefore⟩
      · obtain ⟨written, rfl, hwritten⟩ := hmembers _ _ _ hfound
        exact ⟨'\x7b' :: (before ++ written ++ ['\x7d']), by simp,
          (hwritten.spaced hbefore).writes⟩
  · next hbracket =>
      obtain ⟨more, rfl⟩ := List.head?_eq_some_iff.mp hbracket
      rw [run_bind_of_eq_some (run_next_eq_some_iff.mpr rfl)] at h
      obtain ⟨before, later, rfl, hbefore, ⟨rfl, rfl⟩ | ⟨found, hfound, rfl⟩⟩ :=
        exists_of_run_parts h
      · exact ⟨'[' :: (before ++ [']']), by simp, .emptyArray hbefore⟩
      · obtain ⟨written, rfl, hwritten⟩ := helements _ _ _ hfound
        exact ⟨'[' :: (before ++ written ++ [']']), by simp, (hwritten.spaced hbefore).writes⟩
  · exact readsWritten_simple _ _ _ h

/-- All readers of documents take what writes the document. -/
theorem sound (fuel : Nat) : ReadsWritten (value fuel) ∧ ReadsWritten (bare fuel) ∧
    ReadsElements (elements fuel) ∧ ReadsMembers (members fuel) := by
  induction fuel with
  | zero =>
      refine ⟨?_, readsWritten_simple, ?_, ?_⟩ <;> rintro text rest found ⟨⟩
  | succ fuel ih =>
      obtain ⟨hvalue, hbare, helements, hmembers⟩ := ih
      exact ⟨readsWritten_value hbare, readsWritten_bare helements hmembers,
        readsElements hvalue helements, readsMembers hvalue hmembers⟩

end CommandTree.Json
