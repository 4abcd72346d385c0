import CommandTree.Proofs.Config.Links
import Mathlib.Data.List.Perm.Basic

/-!
# The first offence of a configuration

Links are checked one after the other, and the names that were seen are kept.  What matters of
these is which they are, so the check of a link can be told from the links before it.  A
configuration that is not accepted is refused for its first link that offends, whatever is
wrong with later ones (`Link.exists_isFirstOffence`).

Whether a configuration is accepted depends on the names of its links alone, and not on their
order.
-/

namespace CommandTree

open Text

namespace Link

variable {earlier links : List Link} {link : Link} {fault : LinkFault}

/-- The name of the link is blank, has a blank in it, or is that of an earlier link. -/
def Offends (earlier : List Link) (link : Link) : Prop :=
  (∀ c ∈ link.name.toList, isBlank c = true) ∨ (∃ c ∈ link.name.toList, isBlank c = true) ∨
    ∃ other ∈ earlier, other.name = link.name

/-- What is said of a link that offends: of several reasons the first in this order. -/
inductive IsRefusedWith (earlier : List Link) (link : Link) : String → Prop where
  | blank (hblank : ∀ c ∈ link.name.toList, isBlank c = true) :
      IsRefusedWith earlier link "social name is empty"
  | spaced (hsolid : ∃ c ∈ link.name.toList, isBlank c = false)
      (hblank : ∃ c ∈ link.name.toList, isBlank c = true) :
      IsRefusedWith earlier link ("social name contains whitespace: \"" ++ link.name ++ "\"")
  | repeated (hnamed : link.IsNamed) (hname : ∃ other ∈ earlier, other.name = link.name) :
      IsRefusedWith earlier link ("duplicate social: \"" ++ link.name ++ "\"")

/-- The link has the index `i` and offends, and none before it does.  All of them come after
`earlier`. -/
structure IsFirstOffence (earlier links : List Link) (i : Nat) (link : Link) : Prop where
  getElem? : links[i]? = some link
  offends : link.Offends (earlier ++ links.take i)
  earlier : ∀ j < i, ∀ other : Link, links[j]? = some other →
    ¬ other.Offends (earlier ++ links.take j)

/-! ## One link -/

theorem fault?_eq_none_iff_not_offends :
    link.fault? (earlier.map Link.name) = none ↔ ¬ link.Offends earlier := by
  rw [fault?_eq_none_iff, isNamed_iff_not_blank, Offends]
  simp only [List.all_eq_true, List.any_eq_true, List.mem_map, not_or, and_assoc]

/-- The fault of a link has the words that the link is refused with. -/
theorem isRefusedWith_text_of_fault? (h : link.fault? (earlier.map Link.name) = some fault) :
    link.IsRefusedWith earlier fault.text := by
  rw [fault?] at h
  by_cases hall : link.name.toList.all isBlank = true
  · rw [if_pos hall] at h
    obtain rfl := Option.some.inj h
    exact .blank (List.all_eq_true.mp hall)
  · rw [if_neg hall] at h
    by_cases hany : link.name.toList.any isBlank = true
    · rw [if_pos hany] at h
      obtain rfl := Option.some.inj h
      exact .spaced (by simpa using hall) (List.any_eq_true.mp hany)
    · rw [if_neg hany] at h
      by_cases hmem : link.name ∈ earlier.map Link.name
      · rw [if_pos hmem] at h
        obtain rfl := Option.some.inj h
        exact .repeated (isNamed_iff_not_blank.mpr ⟨hall, hany⟩) (List.mem_map.mp hmem)
      · rw [if_neg hmem] at h
        cases h

/-! ## Many links -/

/-- Of the names that were seen it only matters which they are. -/
theorem firstFault?_congr {names others : List String} (h : ∀ name, name ∈ names ↔ name ∈ others)
    (links : List Link) : firstFault? names links = firstFault? others links := by
  induction links generalizing names others with
  | nil => rfl
  | cons link rest ih =>
      have hlink : link.fault? names = link.fault? others := by
        simp only [fault?, h]
      have hrest : firstFault? (link.name :: names) rest =
          firstFault? (link.name :: others) rest := by
        apply ih
        intro name
        simp only [List.mem_cons, h]
      rw [firstFault?, firstFault?, hlink, hrest]

/-- Of the links it only matters how they are called. -/
theorem firstFault?_eq_of_names_eq {names : List String} {others : List Link}
    (h : others.map Link.name = links.map Link.name) :
    firstFault? names others = firstFault? names links := by
  induction links generalizing names others with
  | nil =>
      obtain rfl := List.map_eq_nil_iff.mp h
      rfl
  | cons link rest ih =>
      obtain ⟨other, later, rfl, hname, hlater⟩ := List.map_eq_cons_iff.mp h
      have hother : other.fault? names = link.fault? names := by
        simp only [fault?, hname]
      rw [firstFault?, firstFault?, hother, hname, ih hlater]

theorem firstFault?_cons_of_not_offends (hfine : ¬ link.Offends earlier) (rest : List Link) :
    firstFault? (earlier.map Link.name) (link :: rest) =
      firstFault? ((earlier ++ [link]).map Link.name) rest := by
  rw [firstFault?, fault?_eq_none_iff_not_offends.mpr hfine]
  apply firstFault?_congr
  intro name
  simp [or_comm]

/-- What the check finds is wrong with the first link that offends. -/
theorem exists_isFirstOffence (h : firstFault? (earlier.map Link.name) links = some fault) :
    ∃ i link, IsFirstOffence earlier links i link ∧
      link.IsRefusedWith (earlier ++ links.take i) fault.text := by
  induction links generalizing earlier with
  | nil => cases h
  | cons first rest ih =>
      by_cases hoffends : first.Offends earlier
      · have hfault : first.fault? (earlier.map Link.name) = some fault := by
          obtain ⟨found, hfound⟩ := Option.ne_none_iff_exists'.mp
            (mt fault?_eq_none_iff_not_offends.mp (not_not_intro hoffends))
          rw [firstFault?, hfound] at h
          rw [hfound, ← h]
        refine ⟨0, first, ⟨rfl, by simpa using hoffends, ?_⟩, ?_⟩
        · intro j hj
          exact absurd hj (Nat.not_lt_zero j)
        · simpa using isRefusedWith_text_of_fault? hfault
      · rw [firstFault?_cons_of_not_offends hoffends] at h
        obtain ⟨i, link, ⟨hlink, hfirst, hbefore⟩, hrefused⟩ := ih h
        have hlater : ∀ j, earlier ++ (first :: rest).take (j + 1) =
            (earlier ++ [first]) ++ rest.take j := by
          intro j
          simp
        refine ⟨i + 1, link, ⟨hlink, hlater i ▸ hfirst, ?_⟩, hlater i ▸ hrefused⟩
        rintro (_ | j) hj other hother
        · obtain rfl := Option.some.inj hother
          simpa using hoffends
        · rw [hlater]
          exact hbefore j (Nat.lt_of_succ_lt_succ hj) other hother

end Link

namespace Config

variable {config other : Config}

/-- Whether a configuration is accepted depends on the names of its links, in any order. -/
theorem validate_eq_ok_iff_of_perm
    (hperm : (other.links.map Link.name).Perm (config.links.map Link.name)) :
    other.validate = .ok other ↔ config.validate = .ok config := by
  have hnamed : ∀ config : Config, (∀ link ∈ config.links, link.IsNamed) ↔
      ∀ name ∈ config.links.map Link.name, name ≠ "" ∧ IsWord name.toList := by
    intro config
    rw [List.forall_mem_map]
    rfl
  rw [validate_eq_ok_iff, validate_eq_ok_iff, hnamed other, hnamed config, hperm.nodup_iff]
  constructor
  · exact fun h => ⟨fun name hname => h.1 name (hperm.mem_iff.mpr hname), h.2⟩
  · exact fun h => ⟨fun name hname => h.1 name (hperm.mem_iff.mp hname), h.2⟩

/-- A configuration is accepted exactly if the names of its links are words and all different.
Otherwise it is refused for the first link that offends, with the first reason that applies.
Whether it is accepted depends on the names alone, in any order; for the same names in the same
order the refusal is the same, too. -/
theorem validate_reports_first_offence (config : Config) :
    (config.validate = .ok config ↔
      (∀ link ∈ config.links, link.name ≠ "" ∧ IsWord link.name.toList) ∧
        (config.links.map Link.name).Nodup) ∧
    (config.validate ≠ .ok config → ∃ i link message,
      Link.IsFirstOffence [] config.links i link ∧
      link.IsRefusedWith (config.links.take i) message ∧
      config.validate = .error (.config message)) ∧
    (∀ other : Config, (other.links.map Link.name).Perm (config.links.map Link.name) →
      (other.validate = .ok other ↔ config.validate = .ok config)) ∧
    ∀ other : Config, other.links.map Link.name = config.links.map Link.name →
      ∀ fault, other.validate = .error fault ↔ config.validate = .error fault := by
  refine ⟨validate_eq_ok_iff, ?_, fun other hperm => validate_eq_ok_iff_of_perm hperm, ?_⟩
  · intro hrefused
    cases hfault : config.fault? with
    | none =>
        rw [validate, hfault] at hrefused
        exact absurd rfl hrefused
    | some fault =>
        obtain ⟨i, link, hfirst, hmessage⟩ := @Link.exists_isFirstOffence [] _ _ hfault
        refine ⟨i, link, fault.text, hfirst, hmessage, ?_⟩
        rw [validate, hfault]
  · intro other hnames fault
    have hsame : other.fault? = config.fault? := Link.firstFault?_eq_of_names_eq hnames
    rw [validate, validate, hsame]
    cases config.fault? <;> simp

/-- Links of which the second has two words for a name, the third no name, and the last the
name of the first. -/
def flawedLinks : List Link :=
  [⟨"home", "u"⟩, ⟨"my site", "v"⟩, ⟨"", "w"⟩, ⟨"home", "x"⟩]

/-- The links are refused for the second of them, and in the opposite order, too. -/
theorem validate_reports_two_words :
    let config : Config := { links := flawedLinks }
    let reversed : Config := { linePrefix := "!", links := flawedLinks.reverse }
    config.validate ≠ .ok config ∧
    (∃ i link, Link.IsFirstOffence [] flawedLinks i link ∧
      link.IsRefusedWith (flawedLinks.take i)
        "social name contains whitespace: \"my site\"") ∧
    (reversed.links.map Link.name).Perm (config.links.map Link.name) ∧
    reversed.validate ≠ .ok reversed := by
  intro config reversed
  have hrefused : config.validate =
      .error (.config "social name contains whitespace: \"my site\"") := by
    decide +kernel
  have hne : config.validate ≠ .ok config := by
    simp [hrefused]
  have hperm : (reversed.links.map Link.name).Perm (config.links.map Link.name) :=
    (List.reverse_perm flawedLinks).map Link.name
  obtain ⟨-, hfirst, horder, -⟩ := validate_reports_first_offence config
  obtain ⟨i, link, message, hoffence, hmessage, herror⟩ := hfirst hne
  obtain rfl := Fault.config.inj (Except.error.inj (hrefused.symm.trans herror))
  exact ⟨hne, ⟨i, link, hoffence, hmessage⟩, hperm, mt (horder reversed hperm).mp hne⟩

end Config

end CommandTree
