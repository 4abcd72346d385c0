import CommandTree.Config.Basic
import CommandTree.Proofs.Text.Word

/-!
# Acceptable links

A list of links is accepted exactly if each name is a word and no two are equal.
-/

namespace CommandTree

/-- The name of the link is a word. -/
def Link.IsNamed (link : Link) : Prop :=
  link.name ≠ "" ∧ Text.IsWord link.name.toList

namespace Link

variable {earlier : List String} {link : Link}

theorem IsNamed.toList_ne_nil (hnamed : link.IsNamed) : link.name.toList ≠ [] := by
  intro hnil
  exact hnamed.1 (String.toList_eq_nil_iff.mp hnil)

theorem isNamed_iff_not_blank :
    link.IsNamed ↔
      ¬ link.name.toList.all Text.isBlank ∧ ¬ link.name.toList.any Text.isBlank := by
  constructor
  · intro hnamed
    constructor
    · intro hall
      obtain ⟨c, rest, hchars⟩ := List.exists_cons_of_ne_nil hnamed.toList_ne_nil
      have hmem : c ∈ link.name.toList := hchars ▸ List.mem_cons_self
      have hblank : Text.isBlank c = true := List.all_eq_true.mp hall c hmem
      simp [hnamed.2 c hmem] at hblank
    · intro hany
      obtain ⟨c, hmem, hblank⟩ := List.any_eq_true.mp hany
      simp [hnamed.2 c hmem] at hblank
  · rintro ⟨hall, hany⟩
    constructor
    · rintro hempty
      exact hall (by simp [hempty])
    · intro c hmem
      by_contra hc
      exact hany (List.any_eq_true.mpr ⟨c, hmem, by simpa using hc⟩)

theorem fault?_eq_none_iff :
    link.fault? earlier = none ↔ link.IsNamed ∧ link.name ∉ earlier := by
  rw [isNamed_iff_not_blank, fault?]
  split
  · next hall => simp [hall]
  · next hall =>
      split
      · next hany => simp [hany]
      · next hany =>
          rw [and_iff_right ⟨hall, hany⟩]
          split <;> simp [*]

theorem firstFault?_eq_none_iff {links : List Link} :
    firstFault? earlier links = none ↔
      (∀ link ∈ links, link.IsNamed ∧ link.name ∉ earlier) ∧
        (links.map Link.name).Nodup := by
  induction links generalizing earlier with
  | nil => simp [firstFault?]
  | cons link rest ih =>
      have hstep : firstFault? earlier (link :: rest) = none ↔
          link.fault? earlier = none ∧
            firstFault? (link.name :: earlier) rest = none := by
        rw [firstFault?]
        cases link.fault? earlier <;> simp
      rw [hstep, fault?_eq_none_iff, ih, List.forall_mem_cons, List.map_cons,
        List.nodup_cons]
      constructor
      · rintro ⟨hlink, hrest, hnodup⟩
        refine ⟨⟨hlink, fun other hother => ⟨(hrest other hother).1, ?_⟩⟩, ?_, hnodup⟩
        · exact fun hmem => (hrest other hother).2 (List.mem_cons_of_mem _ hmem)
        · intro hmem
          obtain ⟨other, hother, hname⟩ := List.mem_map.mp hmem
          exact (hrest other hother).2 (hname ▸ List.mem_cons_self)
      · rintro ⟨⟨hlink, hrest⟩, hnew, hnodup⟩
        refine ⟨hlink, fun other hother => ⟨(hrest other hother).1, ?_⟩, hnodup⟩
        intro hmem
        rcases List.mem_cons.mp hmem with hname | hold
        · exact hnew (hname ▸ List.mem_map_of_mem hother)
        · exact (hrest other hother).2 hold

end Link

theorem Config.validate_eq_ok_iff {config : Config} :
    config.validate = .ok config ↔
      (∀ link ∈ config.links, link.IsNamed) ∧ (config.links.map Link.name).Nodup := by
  have hfault : config.validate = .ok config ↔ config.fault? = none := by
    unfold validate
    cases config.fault? <;> simp
  rw [hfault, fault?, Link.firstFault?_eq_none_iff]
  simp

end CommandTree
