import CommandTree.Proofs.Json.Sound

/-!
# What is written in JSON is read

A text that writes a document is read as that document, with the space after it, if what
follows ends a document (`Json.readsBack_of_writes`).  With what is shown of the other
direction, a text is read as a document exactly if it writes the document
(`Json.parse?_eq_some_iff`), and it writes no other.
-/

namespace CommandTree.Json

open Text Text.Reader

variable {text rest : List Char} {document : Json}

/-! ## What stands at the front of a text -/

/-- There is no space at the front of the text. -/
def BeginsSolid (text : List Char) : Prop := ∀ c ∈ text.head?, ¬ IsSpace [c]

/-- The text is at its end, or at a sign that stands after documents. -/
def EndsDocument (text : List Char) : Prop := ∀ c ∈ text.head?, c = ',' ∨ c = ']' ∨ c = '\x7d'

theorem EndsDocument.beginsSolid (h : EndsDocument text) : BeginsSolid text := by
  intro c hc
  rcases h c hc with rfl | rfl | rfl <;> simp [IsSpace]

theorem EndsDocument.endsNumber (h : EndsDocument rest) {after : List Char}
    (hafter : IsSpace after) : EndsNumber (after ++ rest) := by
  cases after with
  | nil =>
      intro c hc
      rcases h c hc with rfl | rfl | rfl <;> decide
  | cons first later =>
      rintro c ⟨⟩
      rcases hafter first List.mem_cons_self with rfl | rfl | rfl | rfl <;> decide

theorem run_space_append_eq {before : List Char} (hbefore : IsSpace before) (text : List Char) :
    space.run (before ++ text) = space.run text := by
  rw [space, run_dropWhile, run_dropWhile, List.dropWhile_append_of_pos]
  intro c hc
  simpa [or_assoc] using hbefore c hc

theorem run_space_of_beginsSolid (h : BeginsSolid text) : space.run text = some ((), text) := by
  cases text with
  | nil => rfl
  | cons c later =>
      have hsolid := h c rfl
      rw [space, run_dropWhile, List.dropWhile_cons_of_neg]
      simpa [IsSpace, or_assoc] using hsolid

theorem run_space_append {before : List Char} (hbefore : IsSpace before) (h : BeginsSolid text) :
    space.run (before ++ text) = some ((), text) := by
  rw [run_space_append_eq hbefore, run_space_of_beginsSolid h]

/-! ## Space before documents -/

theorem run_value_append {before : List Char} (hbefore : IsSpace before) (fuel : Nat)
    (text : List Char) : (value fuel).run (before ++ text) = (value fuel).run text := by
  cases fuel with
  | zero => rfl
  | succ fuel => exact run_bind_congr (run_space_append_eq hbefore text)

theorem run_elements_append {before : List Char} (hbefore : IsSpace before) (fuel : Nat)
    (text : List Char) : (elements fuel).run (before ++ text) = (elements fuel).run text := by
  cases fuel with
  | zero => rfl
  | succ fuel => exact run_bind_congr (run_value_append hbefore fuel text)

theorem run_members_append {before : List Char} (hbefore : IsSpace before) (fuel : Nat)
    (text : List Char) : (members fuel).run (before ++ text) = (members fuel).run text := by
  cases fuel with
  | zero => rfl
  | succ fuel => exact run_bind_congr (run_space_append_eq hbefore text)

theorem run_value_of_bare {fuel : Nat} {after : List Char}
    (h : (bare fuel).run text = some (document, after ++ rest)) (htext : BeginsSolid text)
    (hafter : IsSpace after) (hrest : EndsDocument rest) :
    (value (fuel + 1)).run text = some (document, rest) := by
  rw [value, run_bind_of_eq_some (run_space_of_beginsSolid htext), run_bind_of_eq_some h,
    run_bind_of_eq_some (run_space_append hafter hrest.beginsSolid)]
  rfl

/-! ## Documents without parts -/

/-- With enough fuel the text is read as the document, if what follows ends a document. -/
def ReadsBack (text : List Char) (document : Json) : Prop :=
  ∀ fuel after rest, 2 * text.length ≤ fuel → IsSpace after → EndsDocument rest →
    (value fuel).run (text ++ (after ++ rest)) = some (document, rest)

theorem readsBack_of_simple {c : Char} {more : List Char}
    (hc : ¬ IsSpace [c] ∧ c ≠ '\x7b' ∧ c ≠ '[')
    (h : ∀ rest, EndsNumber rest → simple.run (c :: (more ++ rest)) = some (document, rest)) :
    ReadsBack (c :: more) document := by
  rintro (_ | fuel) after rest hfuel hafter hrest
  · cases hfuel
  · refine run_value_of_bare ?_ (by rintro _ ⟨⟩; exact hc.1) hafter hrest
    have hsimple := h (after ++ rest) (hrest.endsNumber hafter)
    cases fuel with
    | zero => exact hsimple
    | succ fuel =>
        rw [bare, run_bind_of_eq_some run_peek?]
        simpa [hc.2.1, hc.2.2] using hsimple

/-- A word that is read as a whole. -/
theorem readsBack_of_expect (word : String) (c : Char) {more : List Char}
    (hword : word.toList = c :: more) (hc : ¬ IsSpace [c] ∧ c ≠ '\x7b' ∧ c ≠ '[')
    (h : ∀ rest, simple.run (c :: rest) =
      (do expect word; return document : Text.Reader Json).run (c :: rest)) :
    ReadsBack word.toList document := by
  rw [hword]
  refine readsBack_of_simple hc fun rest _ => ?_
  have hexpect : (expect word).run (c :: (more ++ rest)) = some ((), rest) :=
    run_expect_eq_some_iff.mpr (by rw [hword, List.cons_append])
  rw [h, run_bind_of_eq_some hexpect]
  rfl

theorem readsBack_null : ReadsBack "null".toList .null :=
  readsBack_of_expect "null" 'n' rfl (by simp [IsSpace]) fun _ => rfl

theorem readsBack_yes : ReadsBack "true".toList .scalar :=
  readsBack_of_expect "true" 't' rfl (by simp [IsSpace]) fun _ => rfl

theorem readsBack_no : ReadsBack "false".toList .scalar :=
  readsBack_of_expect "false" 'f' rfl (by simp [IsSpace]) fun _ => rfl

theorem readsBack_string {value : Option String} (h : WritesString text value) :
    ReadsBack text (.string value) := by
  obtain ⟨body, rfl, hbody⟩ := exists_run_stringBody h
  refine readsBack_of_simple (by simp [IsSpace]) fun rest _ => ?_
  rw [simple, run_bind_of_eq_some run_peek?]
  simp only [List.head?_cons]
  rw [run_bind_of_eq_some (run_next_eq_some_iff.mpr rfl), List.append_assoc]
  exact run_bind_of_eq_some (hbody rest)

/-- A number begins with a sign or a digit. -/
theorem IsNumber.exists_cons (h : IsNumber text) :
    ∃ c more, text = c :: more ∧ (c = '-' ∨ c.isDigit = true) := by
  obtain @⟨sign, whole, places, power, hsign, hwhole, -, -⟩ := h
  rcases hsign with rfl | rfl
  · obtain ⟨c, later, rfl⟩ := List.exists_cons_of_ne_nil hwhole.ne_nil
    exact ⟨c, _, rfl, .inr (hwhole.digits c List.mem_cons_self)⟩
  · exact ⟨'-', _, rfl, .inl rfl⟩

theorem readsBack_number (h : IsNumber text) : ReadsBack text .scalar := by
  obtain ⟨c, more, rfl, hc⟩ := h.exists_cons
  have hnone : [' ', '\t', '\n', '\r', '\x7b', '[', '"', 'n', 't', 'f'].all
      (fun d => d != '-' && !d.isDigit) = true := by
    decide
  have hother : ∀ d ∈ [' ', '\t', '\n', '\r', '\x7b', '[', '"', 'n', 't', 'f'], c ≠ d := by
    rintro d hd rfl
    have hneither := List.all_eq_true.mp hnone c hd
    rcases hc with rfl | hdigit
    · cases hneither
    · simp [hdigit] at hneither
  refine readsBack_of_simple (by simp_all [IsSpace]) fun rest hrest => ?_
  rw [simple, run_bind_of_eq_some run_peek?]
  split
  · next hhead => exact absurd (Option.some.inj hhead) (hother _ (by simp))
  · next hhead => exact absurd (Option.some.inj hhead) (hother _ (by simp))
  · next hhead => exact absurd (Option.some.inj hhead) (hother _ (by simp))
  · next hhead => exact absurd (Option.some.inj hhead) (hother _ (by simp))
  · exact run_bind_of_eq_some (run_number_of_isNumber h hrest)

/-! ## Elements and members -/

/-- Parts that are read one at a time are read in a row, up to the closing bracket. -/
theorem run_row {α : Type} {row : Nat → Text.Reader (List α)} {close : String}
    (hclose : close = "]" ∨ close = "\x7d") {parts : List (List Char × α)} (hne : parts ≠ [])
    (hparts : ∀ part ∈ parts, ∀ fuel rest, 2 * part.1.length ≤ fuel → EndsDocument rest →
      (row (fuel + 1)).run (part.1 ++ rest) = (do
        if ← skip "," then return part.2 :: (← row fuel)
        expect close
        return [part.2] : Text.Reader (List α)).run rest) (rest : List Char) :
    ∀ fuel, 2 * (separated (parts.map Prod.fst)).length + 2 ≤ fuel →
      (row fuel).run (separated (parts.map Prod.fst) ++ (close.toList ++ rest)) =
        some (parts.map Prod.snd, rest) := by
  induction parts with
  | nil => exact absurd rfl hne
  | cons part parts ih =>
      obtain ⟨hpart, hparts⟩ := List.forall_mem_cons.mp hparts
      rintro (_ | fuel) hfuel
      · cases hfuel
      · by_cases hlast : parts = []
        · subst hlast
          rw [List.map_singleton, separated_singleton] at hfuel ⊢
          have hends : EndsDocument (close.toList ++ rest) := by
            rcases hclose with rfl | rfl <;> rintro _ ⟨⟩ <;> decide
          have hcomma : (skip ",").run (close.toList ++ rest) =
              some (false, close.toList ++ rest) := by
            rcases hclose with rfl | rfl <;> rfl
          have hexpect : (expect close).run (close.toList ++ rest) = some ((), rest) :=
            run_expect_eq_some_iff.mpr rfl
          rw [hpart fuel _ (by omega) hends, run_bind_of_eq_some hcomma]
          exact run_bind_of_eq_some hexpect
        · -- the step of fuel that the part takes is paid for by the comma after it
          have hrow : separated ((part :: parts).map Prod.fst) =
              part.1 ++ ',' :: separated (parts.map Prod.fst) := by
            rw [List.map_cons, separated_cons (by simpa using hlast)]
          rw [hrow, List.length_append, List.length_cons] at hfuel
          have hcomma : (skip ",").run
              (',' :: (separated (parts.map Prod.fst) ++ (close.toList ++ rest))) =
              some (true, separated (parts.map Prod.fst) ++ (close.toList ++ rest)) := rfl
          have hlater := ih hlast hparts fuel (by omega)
          rw [hrow, List.append_assoc, List.cons_append,
            hpart fuel _ (by omega) (by simp [EndsDocument]), run_bind_of_eq_some hcomma]
          exact run_bind_of_eq_some hlater

theorem run_elements {parts : List (List Char × Json)} (hne : parts ≠ [])
    (hparts : ∀ part ∈ parts, ReadsBack part.1 part.2) (rest : List Char) (fuel : Nat)
    (hfuel : 2 * (separated (parts.map Prod.fst)).length + 2 ≤ fuel) :
    (elements fuel).run (separated (parts.map Prod.fst) ++ ']' :: rest) =
      some (parts.map Prod.snd, rest) := by
  refine run_row (.inl rfl) hne ?_ rest fuel hfuel
  intro part hpart fuel rest hfuel hrest
  rw [elements]
  exact run_bind_of_eq_some (hparts part hpart fuel [] rest hfuel isSpace_nil hrest)

/-- After a member the reader goes on with what follows its value. -/
theorem run_members_succ {member : WrittenMember} (hkeyed : member.IsKeyed)
    (hvalue : ReadsBack member.valueText member.value) {fuel : Nat}
    (hfuel : 2 * member.text.length ≤ fuel) (hrest : EndsDocument rest) :
    (members (fuel + 1)).run (member.text ++ rest) = (do
      if ← skip "," then return (member.key, member.value) :: (← members fuel)
      expect "\x7d"
      return [(member.key, member.value)] : Text.Reader _).run rest := by
  obtain ⟨body, hkey, hbody⟩ := exists_run_stringBody hkeyed.key
  have htext : member.text ++ rest = member.before ++ ('"' :: (body ++ '"' ::
      (member.between ++ (':' :: (member.valueText ++ ([] ++ rest)))))) := by
    simp [WrittenMember.text, hkey]
  have hlength : 2 * member.valueText.length ≤ fuel := by
    simp only [WrittenMember.text, List.length_append, List.length_cons] at hfuel
    omega
  have hquote : (expect "\"").run ('"' :: (body ++ '"' ::
      (member.between ++ (':' :: (member.valueText ++ ([] ++ rest)))))) =
      some ((), body ++ '"' :: (member.between ++ (':' :: (member.valueText ++ ([] ++ rest))))) :=
    run_expect_eq_some_iff.mpr rfl
  have hcolon : (expect ":").run (':' :: (member.valueText ++ ([] ++ rest))) =
      some ((), member.valueText ++ ([] ++ rest)) :=
    run_expect_eq_some_iff.mpr rfl
  rw [htext, members,
    run_bind_of_eq_some (run_space_append hkeyed.before (by simp [BeginsSolid, IsSpace])),
    run_bind_of_eq_some hquote, run_bind_of_eq_some (hbody _),
    run_bind_of_eq_some (run_space_append hkeyed.between (by simp [BeginsSolid, IsSpace])),
    run_bind_of_eq_some hcolon,
    run_bind_of_eq_some (hvalue fuel [] rest hlength isSpace_nil hrest)]

theorem run_members {found : List WrittenMember} (hne : found ≠ [])
    (hkeys : ∀ member ∈ found, member.IsKeyed)
    (hvalues : ∀ member ∈ found, ReadsBack member.valueText member.value) (rest : List Char)
    (fuel : Nat) (hfuel : 2 * (separated (found.map WrittenMember.text)).length + 2 ≤ fuel) :
    (members fuel).run (separated (found.map WrittenMember.text) ++ '\x7d' :: rest) =
      some (found.map fun member => (member.key, member.value), rest) := by
  let parts := found.map fun member => (member.text, (member.key, member.value))
  have htexts : parts.map Prod.fst = found.map WrittenMember.text := by
    simp [parts, Function.comp_def]
  have hgiven : parts.map Prod.snd = found.map fun member => (member.key, member.value) := by
    simp [parts, Function.comp_def]
  rw [← htexts] at hfuel ⊢
  rw [← hgiven]
  refine run_row (.inr rfl) (by simpa [parts] using hne) ?_ rest fuel hfuel
  intro part hpart fuel rest hfuel hrest
  obtain ⟨member, hmember, rfl⟩ := List.mem_map.mp hpart
  exact run_members_succ (hkeys member hmember) (hvalues member hmember) hfuel hrest

/-! ## Documents with parts -/

/-- The reader of parts goes on from an opening bracket, with space before the first part. -/
theorem run_parts {α : Type} {close : String} {empty : Json} {parts : Text.Reader α}
    {make : α → Json} {found : α}
    (hspace : ∀ before text, IsSpace before → parts.run (before ++ text) = parts.run text)
    (hclose : ∀ more, parts.run (close.toList ++ more) = none)
    (h : parts.run text = some (found, rest)) :
    (do
      space
      if ← skip close then return empty
      return make (← parts) : Text.Reader Json).run text = some (make found, rest) := by
  -- the parts are read the same without the space, and so cannot begin with the bracket
  obtain ⟨before, later, rfl, hbefore, hlead⟩ := exists_run_space text
  rw [hspace before later hbefore] at h
  rw [run_bind_of_eq_some hlead]
  rcases run_skip_cases close later with ⟨more, rfl, -⟩ | ⟨-, hskip⟩
  · rw [hclose more] at h
    cases h
  · rw [run_bind_of_eq_some hskip]
    exact run_bind_of_eq_some h

/-- A bracket may close at once, with but space before. -/
theorem run_parts_close {α : Type} {close : String} {empty : Json} {parts : Text.Reader α}
    {make : α → Json} {before : List Char} (hbefore : IsSpace before)
    (hclose : BeginsSolid (close.toList ++ rest)) :
    (do
      space
      if ← skip close then return empty
      return make (← parts) : Text.Reader Json).run (before ++ (close.toList ++ rest)) =
        some (empty, rest) := by
  rw [run_bind_of_eq_some (run_space_append hbefore hclose),
    run_bind_of_eq_some (run_skip_append close rest)]
  rfl

theorem run_elements_close (fuel : Nat) (more : List Char) :
    (elements fuel).run ("]".toList ++ more) = none := by
  match fuel with
  | 0 | 1 | 2 | _ + 3 => rfl

theorem run_members_close (fuel : Nat) (more : List Char) :
    (members fuel).run ("\x7d".toList ++ more) = none := by
  match fuel with
  | 0 | _ + 1 => rfl

theorem run_bare_bracket (fuel : Nat) (text : List Char) :
    (bare (fuel + 1)).run ('[' :: text) = (do
      space
      if ← skip "]" then return .array []
      return .array (← elements fuel) : Text.Reader Json).run text := rfl

theorem run_bare_brace (fuel : Nat) (text : List Char) :
    (bare (fuel + 1)).run ('\x7b' :: text) = (do
      space
      if ← skip "\x7d" then return .object []
      return .object (← members fuel) : Text.Reader Json).run text := rfl

/-- An array or an object is read up to its closing bracket. -/
theorem readsBack_of_bare {opening : Char} {more : List Char} (hsolid : ¬ IsSpace [opening])
    (h : ∀ fuel rest, 2 * more.length ≤ fuel →
      (bare (fuel + 1)).run (opening :: (more ++ rest)) = some (document, rest)) :
    ReadsBack (opening :: more) document := by
  rintro (_ | _ | fuel) after rest hfuel hafter hrest
  · cases hfuel
  · simp at hfuel
    omega
  · refine run_value_of_bare (h fuel _ (by simp at hfuel; omega)) ?_ hafter hrest
    rintro _ ⟨⟩
    exact hsolid

theorem readsBack_emptyArray {between : List Char} (h : IsSpace between) :
    ReadsBack ('[' :: (between ++ [']'])) (.array []) := by
  refine readsBack_of_bare (by simp [IsSpace]) fun fuel rest hfuel => ?_
  rw [run_bare_bracket, List.append_assoc]
  have hclose : BeginsSolid (']' :: rest) := by
    simp [BeginsSolid, IsSpace]
  exact run_parts_close h hclose

theorem readsBack_array {parts : List (List Char × Json)} (hne : parts ≠ [])
    (hparts : ∀ part ∈ parts, ReadsBack part.1 part.2) :
    ReadsBack ('[' :: (separated (parts.map Prod.fst) ++ [']'])) (.array (parts.map Prod.snd)) := by
  refine readsBack_of_bare (by simp [IsSpace]) fun fuel rest hfuel => ?_
  rw [run_bare_bracket, List.append_assoc]
  exact run_parts (fun before text hbefore => run_elements_append hbefore fuel text)
    (run_elements_close fuel) (run_elements hne hparts rest fuel (by simp at hfuel; omega))

theorem readsBack_emptyObject {between : List Char} (h : IsSpace between) :
    ReadsBack ('\x7b' :: (between ++ ['\x7d'])) (.object []) := by
  refine readsBack_of_bare (by simp [IsSpace]) fun fuel rest hfuel => ?_
  rw [run_bare_brace, List.append_assoc]
  have hclose : BeginsSolid ('\x7d' :: rest) := by
    simp [BeginsSolid, IsSpace]
  exact run_parts_close h hclose

theorem readsBack_object {found : List WrittenMember} (hne : found ≠ [])
    (hkeys : ∀ member ∈ found, member.IsKeyed)
    (hvalues : ∀ member ∈ found, ReadsBack member.valueText member.value) :
    ReadsBack ('\x7b' :: (separated (found.map WrittenMember.text) ++ ['\x7d']))
      (.object (found.map fun member => (member.key, member.value))) := by
  refine readsBack_of_bare (by simp [IsSpace]) fun fuel rest hfuel => ?_
  rw [run_bare_brace, List.append_assoc]
  exact run_parts (fun before text hbefore => run_members_append hbefore fuel text)
    (run_members_close fuel) (run_members hne hkeys hvalues rest fuel (by simp at hfuel; omega))

/-! ## All documents -/

theorem readsBack_of_writes (h : Writes text document) : ReadsBack text document := by
  induction h with
  | null => exact readsBack_null
  | yes => exact readsBack_yes
  | no => exact readsBack_no
  | number h => exact readsBack_number h
  | string h => exact readsBack_string h
  | emptyArray h => exact readsBack_emptyArray h
  | array hne h ih => exact readsBack_array hne ih
  | emptyObject h => exact readsBack_emptyObject h
  | object hne hkeys h ih => exact readsBack_object hne hkeys ih
  | @spaced before text after document hbefore hafter h ih =>
      intro fuel later rest hfuel hlater hrest
      have hread := ih fuel (after ++ later) rest (by simp at hfuel; omega)
        (hafter.append hlater) hrest
      rw [List.append_assoc, run_value_append hbefore, List.append_assoc]
      simpa using hread

/-- A text is read as a document exactly if it writes the document. -/
theorem parse?_eq_some_iff {text : String} : parse? text = some document ↔
    Writes text.toList document := by
  rw [parse?, readAll?_eq_some_iff]
  constructor
  · intro h
    obtain ⟨written, hwritten, hwrites⟩ := (sound _).1 _ _ _ h
    rwa [hwritten, List.append_nil]
  · intro h
    have hread := readsBack_of_writes h (4 * text.length + 4) [] []
      (by rw [String.length_toList]; omega) isSpace_nil (by simp [EndsDocument])
    simpa using hread

/-- No text writes two documents. -/
theorem Writes.unique {other : Json} (h : Writes text document) (hother : Writes text other) :
    document = other := by
  have hread : ∀ {found : Json}, Writes text found → parse? (String.ofList text) = some found := by
    intro found hfound
    exact parse?_eq_some_iff.mpr (by rwa [String.toList_ofList])
  exact Option.some.inj ((hread h).symm.trans (hread hother))

end CommandTree.Json
