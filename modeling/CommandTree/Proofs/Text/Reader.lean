import CommandTree.Proofs.Text.Word
import CommandTree.Text.Reader

/-!
# What readers take

For each step from which readers are put together, which texts it takes and what it leaves.
-/

namespace CommandTree.Text.Reader

variable {α β : Type} {reader : Reader α} {goOn : α → Reader β} {test : Char → Bool}
  {lead other : String} {text rest : List Char}

theorem run_bind_eq_some_iff {value : β} :
    (reader >>= goOn).run text = some (value, rest) ↔
      ∃ first middle, reader.run text = some (first, middle) ∧
        (goOn first).run middle = some (value, rest) := by
  rw [StateT.run_bind]
  constructor
  · intro h
    obtain ⟨⟨first, middle⟩, hfirst, hnext⟩ := Option.bind_eq_some_iff.mp h
    exact ⟨first, middle, hfirst, hnext⟩
  · rintro ⟨first, middle, hfirst, hnext⟩
    exact Option.bind_eq_some_iff.mpr ⟨(first, middle), hfirst, hnext⟩

/-- A reader goes on from what its first step leaves. -/
theorem run_bind_of_eq_some {first : α} {middle : List Char}
    (h : reader.run text = some (first, middle)) :
    (reader >>= goOn).run text = (goOn first).run middle := by
  rw [StateT.run_bind, h]
  rfl

/-- A reader cannot tell texts apart that are alike to its first step. -/
theorem run_bind_congr {other : List Char} (h : reader.run text = reader.run other) :
    (reader >>= goOn).run text = (reader >>= goOn).run other := by
  rw [StateT.run_bind, h, StateT.run_bind]

@[simp] theorem run_refuse : (refuse : Reader α).run text = none := rfl

@[simp] theorem run_set (text more : List Char) :
    (StateT.set more : Reader PUnit).run text = some (⟨⟩, more) := rfl

@[simp] theorem run_peek? : peek?.run text = some (text.head?, text) := rfl

theorem run_next_eq_some_iff {c : Char} : next.run text = some (c, rest) ↔ text = c :: rest := by
  cases text with
  | nil => simp [next, Reader.rest]
  | cons d more =>
      have hrun : next.run (d :: more) = some (d, more) := rfl
      simp [hrun]

theorem run_dropWhile : (dropWhile test).run text = some ((), text.dropWhile test) := rfl

/-- Skipping a text takes it off, or leaves a text that does not begin with it. -/
theorem run_skip_cases (lead : String) (text : List Char) :
    (∃ more, text = lead.toList ++ more ∧ (skip lead).run text = some (true, more)) ∨
      (∀ more, text ≠ lead.toList ++ more) ∧ (skip lead).run text = some (false, text) := by
  cases hafter : after? lead.toList text with
  | none =>
      refine .inr ⟨?_, by simp [skip, Reader.rest, hafter]⟩
      rintro more rfl
      simp at hafter
  | some more =>
      exact .inl ⟨more, after?_eq_some_iff.mp hafter, by simp [skip, Reader.rest, hafter]⟩

@[simp] theorem run_skip_append (lead : String) (rest : List Char) :
    (skip lead).run (lead.toList ++ rest) = some (true, rest) := by
  simp [skip, Reader.rest]

theorem run_skip_eq_some_true_iff :
    (skip lead).run text = some (true, rest) ↔ text = lead.toList ++ rest := by
  rcases run_skip_cases lead text with ⟨more, rfl, hskip⟩ | ⟨hno, hskip⟩
  · simp [hskip]
  · simp [hskip, hno]

theorem eq_of_run_skip_eq_some_false (h : (skip lead).run text = some (false, rest)) :
    text = rest := by
  rcases run_skip_cases lead text with ⟨more, rfl, hskip⟩ | ⟨-, hskip⟩
  · simp [hskip] at h
  · simpa [hskip] using h

theorem run_skip_or_cases (lead other : String) (text : List Char) :
    (∃ more, (text = lead.toList ++ more ∨ text = other.toList ++ more) ∧
      (skip lead <||> skip other).run text = some (true, more)) ∨
    (∀ more, text ≠ lead.toList ++ more ∧ text ≠ other.toList ++ more) ∧
      (skip lead <||> skip other).run text = some (false, text) := by
  rw [orM]
  rcases run_skip_cases lead text with ⟨more, rfl, hlead⟩ | ⟨hlead, hno⟩
  · exact .inl ⟨more, .inl rfl, run_bind_of_eq_some hlead⟩
  · rw [run_bind_of_eq_some hno]
    rcases run_skip_cases other text with ⟨more, rfl, hother⟩ | ⟨hother, hneither⟩
    · exact .inl ⟨more, .inr rfl, hother⟩
    · exact .inr ⟨fun more => ⟨hlead more, hother more⟩, hneither⟩

theorem run_skip_or_append (lead other : String) (rest : List Char) :
    (skip lead <||> skip other).run (lead.toList ++ rest) = some (true, rest) := by
  rw [orM, run_bind_of_eq_some (run_skip_append lead rest)]
  rfl

theorem run_skip_or_append_right
    (h : ∀ more, other.toList ++ rest ≠ lead.toList ++ more) :
    (skip lead <||> skip other).run (other.toList ++ rest) = some (true, rest) := by
  rcases run_skip_cases lead (other.toList ++ rest) with ⟨more, hmore, -⟩ | ⟨-, hno⟩
  · exact absurd hmore (h more)
  · rw [orM, run_bind_of_eq_some hno]
    exact run_skip_append other rest

theorem run_expect_eq_some_iff {done : Unit} :
    (expect lead).run text = some (done, rest) ↔ text = lead.toList ++ rest := by
  rw [expect]
  rcases run_skip_cases lead text with ⟨more, rfl, hskip⟩ | ⟨hno, hskip⟩
  · rw [run_bind_of_eq_some hskip]
    simp
  · rw [run_bind_of_eq_some hskip]
    simp [hno]

/-- What is read is the whole run of characters that pass the test. -/
theorem run_takeSome_eq_some_iff {found : List Char} :
    (takeSome test).run text = some (found, rest) ↔
      text = found ++ rest ∧ found ≠ [] ∧ (∀ c ∈ found, test c = true) ∧
        ∀ c ∈ rest.head?, test c = false := by
  have htake : (takeWhile test).run text =
      some (text.takeWhile test, text.dropWhile test) := rfl
  rw [takeSome, run_bind_of_eq_some htake]
  constructor
  · intro h
    by_cases hnone : (text.takeWhile test).isEmpty = true
    · simp [hnone] at h
    · obtain ⟨rfl, rfl⟩ : text.takeWhile test = found ∧ text.dropWhile test = rest := by
        simpa [hnone] using h
      refine ⟨List.takeWhile_append_dropWhile.symm, by simpa using hnone, ?_, ?_⟩
      · intro c hc
        exact List.mem_takeWhile_imp hc
      · intro c hc
        exact eq_false_of_mem_head?_dropWhile hc
  · rintro ⟨rfl, hne, hfound, hrest⟩
    obtain ⟨htaken, hleft⟩ := takeWhile_append_of_head? hfound hrest
    simp [htaken, hleft, hne]

theorem run_takeExactly_eq_some_iff {count : Nat} {found : List Char} :
    (takeExactly test count).run text = some (found, rest) ↔
      text = found ++ rest ∧ found.length = count ∧ ∀ c ∈ found, test c = true := by
  induction count generalizing text found with
  | zero =>
      rw [takeExactly, List.length_eq_zero_iff]
      constructor
      · rintro ⟨⟩
        simp
      · rintro ⟨rfl, rfl, -⟩
        rfl
  | succ count ih =>
      constructor
      · intro h
        rw [takeExactly, run_bind_eq_some_iff] at h
        obtain ⟨c, more, hc, h⟩ := h
        obtain rfl := run_next_eq_some_iff.mp hc
        by_cases htest : test c = true
        · obtain ⟨later, hlater, rfl⟩ : ∃ later,
              (takeExactly test count).run more = some (later, rest) ∧ c :: later = found := by
            simpa [htest] using h
          obtain ⟨rfl, rfl, hall⟩ := ih.mp hlater
          exact ⟨rfl, rfl, List.forall_mem_cons.mpr ⟨htest, hall⟩⟩
        · simp [htest] at h
      · rintro ⟨rfl, hlength, hfound⟩
        obtain ⟨c, later, rfl⟩ := List.exists_cons_of_length_eq_add_one hlength
        obtain ⟨htest, hall⟩ := List.forall_mem_cons.mp hfound
        have hlater := ih.mpr ⟨rfl, Nat.succ.inj hlength, hall⟩
        rw [takeExactly, List.cons_append, run_bind_of_eq_some (run_next_eq_some_iff.mpr rfl)]
        simp [htest, hlater]

theorem readAll?_eq_some_iff {value : α} :
    readAll? reader text = some value ↔ reader.run text = some (value, []) := by
  rw [readAll?]
  split
  · next found hrun => simp [hrun]
  · next hrun =>
      constructor
      · rintro ⟨⟩
      · intro h
        exact absurd h (hrun value)

end CommandTree.Text.Reader
