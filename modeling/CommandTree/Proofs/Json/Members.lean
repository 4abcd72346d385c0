import CommandTree.Config.Json
import Mathlib.Data.List.Forall2
import Mathlib.Data.List.Perm.Basic

/-!
# Members of JSON objects

A field is set by the members of an object if one member alone has its key, with a value that
fits, or if no member has it (`Json.Sets`).  Reading a field finds just what sets it
(`Json.field?_eq_some_iff`), and it finds the same in any order of the members
(`Json.field?_eq_of_perm`).
-/

namespace CommandTree

/-- A list is mapped to a list if each element is mapped to the one at its place. -/
theorem mapM_eq_some_iff {α β : Type} {f : α → Option β} {elements : List α} {found : List β} :
    elements.mapM f = some found ↔ List.Forall₂ (fun element value => f element = some value)
      elements found := by
  induction elements generalizing found with
  | nil => simp [eq_comm]
  | cons element elements ih =>
      simp only [List.mapM_cons, Option.bind_eq_bind, Option.bind_eq_some_iff, Option.pure_def,
        List.forall₂_cons_left_iff, ih]
      constructor
      · rintro ⟨value, hvalue, later, hlater, h⟩
        exact ⟨value, later, hvalue, hlater, (Option.some.inj h).symm⟩
      · rintro ⟨value, later, hvalue, hlater, rfl⟩
        exact ⟨value, hvalue, later, hlater, rfl⟩

namespace Json

variable {members others : List (String × Json)} {key : String} {value : Json} {values : List Json}

/-- The object that has the members. -/
def ofMembers (members : List (String × Json)) : Json :=
  .object (members.map fun member => (some member.1, member.2))

/-- One member alone has the key, and it has the value. -/
def HoldsOnce (members : List (String × Json)) (key : String) (value : Json) : Prop :=
  ∃ before after, members = before ++ (key, value) :: after ∧
    ∀ member ∈ before ++ after, member.1 ≠ key

/-- A field with the default gets a value from the members: what the member with its key gives,
or the default if no member has the key. -/
inductive Sets {α : Type} (gives : Json → α → Prop) (default : α)
    (members : List (String × Json)) (key : String) : α → Prop where
  | given {value : Json} {found : α} (hvalue : HoldsOnce members key value)
      (hfound : gives value found) : Sets gives default members key found
  | missing (h : ∀ member ∈ members, member.1 ≠ key) : Sets gives default members key default

theorem members?_eq_some_iff {document : Json} :
    document.members? = some members ↔ document = ofMembers members := by
  cases document with
  | object found =>
      have hmember : ∀ (member : Option String × Json) (given : String × Json),
          member.1.map (fun key => (key, member.2)) = some given ↔
            member = (some given.1, given.2) := by
        rintro ⟨_ | key, value⟩ ⟨given, other⟩ <;> simp
      rw [members?, mapM_eq_some_iff, ofMembers, Json.object.injEq]
      simp only [hmember]
      rw [← List.forall₂_map_right_iff, List.forall₂_eq_eq_eq]
  | _ => simp [members?, ofMembers]

theorem ofMembers_injective : Function.Injective ofMembers := by
  intro members others h
  have hread := members?_eq_some_iff.mpr h
  rw [members?_eq_some_iff.mpr (Eq.refl (ofMembers members))] at hread
  exact Option.some.inj hread

/-! ## What stands under a key -/

theorem under_eq_nil_iff : under members key = [] ↔ ∀ member ∈ members, member.1 ≠ key := by
  simp [under]

theorem under_eq_singleton_iff : under members key = [value] ↔ HoldsOnce members key value := by
  constructor
  · intro h
    obtain ⟨⟨_, _⟩, later, hfilter, rfl, hlater⟩ := List.map_eq_cons_iff.mp h
    obtain rfl := List.map_eq_nil_iff.mp hlater
    obtain ⟨before, after, rfl, hbefore, hkey, hafter⟩ := List.filter_eq_cons_iff.mp hfilter
    obtain rfl := of_decide_eq_true hkey
    refine ⟨before, after, rfl, fun member hmember => ?_⟩
    rcases List.mem_append.mp hmember with hmember | hmember
    · simpa using hbefore member hmember
    · simpa using List.filter_eq_nil_iff.mp hafter member hmember
  · rintro ⟨before, after, rfl, hother⟩
    have hbefore : under before key = [] :=
      under_eq_nil_iff.mpr fun member hmember => hother member (List.mem_append_left _ hmember)
    have hafter : under after key = [] :=
      under_eq_nil_iff.mpr fun member hmember => hother member (List.mem_append_right _ hmember)
    have happend : under (before ++ (key, value) :: after) key =
        under before key ++ value :: under after key := by
      simp [under]
    rw [happend, hbefore, hafter, List.nil_append]

theorem length_under (members : List (String × Json)) (key : String) :
    (under members key).length = (members.map Prod.fst).count key := by
  rw [under, List.length_map, List.count_eq_countP, List.countP_map, List.countP_eq_length_filter]
  congr 2

theorem mem_under_iff : value ∈ under members key ↔ (key, value) ∈ members := by
  simp [under]

theorem under_perm {keys : List String} (hkey : key ∈ keys)
    (h : (others.filter fun member => member.1 ∈ keys).Perm
      (members.filter fun member => member.1 ∈ keys)) :
    (under others key).Perm (under members key) := by
  have hunder : ∀ members : List (String × Json), under members key =
      ((members.filter fun member => member.1 ∈ keys).filter
        fun member => member.1 = key).map Prod.snd := by
    intro members
    rw [under, List.filter_filter]
    congr 2
    funext member
    by_cases hmember : member.1 = key <;> simp [hmember, hkey]
  rw [hunder, hunder]
  exact (h.filter _).map _

/-! ## Fields -/

section

variable {α : Type} {read : Json → Option α} {gives : Json → α → Prop} {default found : α}

/-- What is read for a field is what the members set. -/
theorem field?_eq_some_iff (hread : ∀ value found, read value = some found ↔ gives value found) :
    field? read default (under members key) = some found ↔
      Sets gives default members key found := by
  constructor
  · intro h
    rcases hunder : under members key with _ | ⟨value, _ | ⟨second, later⟩⟩ <;> rw [hunder] at h
    · obtain rfl := Option.some.inj h
      exact .missing (under_eq_nil_iff.mp hunder)
    · exact .given (under_eq_singleton_iff.mp hunder) ((hread value found).mp h)
    · cases h
  · rintro (⟨hvalue, hfound⟩ | hmissing)
    · rw [under_eq_singleton_iff.mpr hvalue]
      exact (hread _ found).mpr hfound
    · rw [under_eq_nil_iff.mpr hmissing]
      rfl

/-- The order of what stands under a key does not matter for its field. -/
theorem field?_eq_of_perm {others : List Json} (h : others.Perm values) :
    field? read default others = field? read default values := by
  rcases values with _ | ⟨value, _ | ⟨second, later⟩⟩
  · rw [h.eq_nil]
  · rw [List.perm_singleton.mp h]
  · obtain ⟨first, next, more, rfl⟩ : ∃ first next more, others = first :: next :: more := by
      match others, h.length_eq with
      | first :: next :: more, _ => exact ⟨first, next, more, rfl⟩
    rfl

/-- A field is set exactly if its key occurs at most once, with a value that fits. -/
theorem exists_sets_iff : (∃ found, Sets gives default members key found) ↔
    (members.map Prod.fst).count key ≤ 1 ∧
      ∀ value, (key, value) ∈ members → ∃ found, gives value found := by
  simp only [← length_under, ← mem_under_iff]
  constructor
  · rintro ⟨found, ⟨hvalue, hfound⟩ | hmissing⟩
    · rw [under_eq_singleton_iff.mpr hvalue]
      exact ⟨Nat.le_refl 1, by simpa using ⟨found, hfound⟩⟩
    · rw [under_eq_nil_iff.mpr hmissing]
      exact ⟨Nat.zero_le 1, by simp⟩
  · rintro ⟨hcount, hfits⟩
    rcases hunder : under members key with _ | ⟨value, _ | ⟨second, later⟩⟩ <;>
      rw [hunder] at hcount hfits
    · exact ⟨default, .missing (under_eq_nil_iff.mp hunder)⟩
    · obtain ⟨found, hfound⟩ := hfits value List.mem_cons_self
      exact ⟨found, .given (under_eq_singleton_iff.mp hunder) hfound⟩
    · simp at hcount

end

end Json

end CommandTree
