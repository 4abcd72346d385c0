import CommandTree.Proofs.Node.Fitness
import CommandTree.Proofs.Node.Refusals
import Mathlib.Data.List.Forall2

/-!
# Trees in pre-order

The nodes of a tree can be listed with their addresses, each before those below it and these
before its later siblings.  The addresses go up in lexicographic order, and there are no others
in the tree.

The lengths of the addresses in this order tell the shape of the tree: which node has how many
children (`sameShape_of_depths_eq`).  What comes below a node is what follows it, up to the
next node that stands no deeper.
-/

namespace CommandTree.Node

variable {α β : Type} {node part : Node α} {other : Node β} {address : List Nat}

/-! ## Places -/

/-- The nodes of a tree with their addresses, from top to bottom. -/
def places (node : Node α) : List (List Nat × Node α) :=
  node.addresses.filterMap fun address => (node.part? address).map (address, ·)

/-- The places of a tree are its root and those below each child. -/
theorem places_eq_cons (node : Node α) :
    node.places = ([], node) :: node.children.zipIdx.flatMap fun entry =>
      entry.1.places.map fun place => (entry.2 :: place.1, place.2) := by
  rw [places, addresses_eq_cons, List.filterMap_cons, part?, Option.map_some,
    addressesFrom_eq_flatMap, List.filterMap_flatMap]
  apply congrArg (([], node) :: ·)
  apply List.flatMap_congr
  rintro ⟨child, position⟩ hmem
  have hchild := List.mk_mem_zipIdx_iff_getElem?.mp hmem
  simp [places, part?, hchild, List.filterMap_map, List.map_filterMap, Function.comp_def]

theorem mem_places_iff : (address, part) ∈ node.places ↔ node.part? address = some part := by
  induction address generalizing node with
  | nil =>
      rw [places_eq_cons]
      simp [part?, eq_comm]
  | cons position address ih =>
      rw [places_eq_cons, List.mem_cons, List.mem_flatMap]
      constructor
      · rintro (hroot | ⟨⟨child, index⟩, hchild, hbelow⟩)
        · simp at hroot
        · obtain ⟨⟨below, found⟩, hplace, heq⟩ := List.mem_map.mp hbelow
          simp only [Prod.mk.injEq, List.cons.injEq] at heq
          obtain ⟨⟨rfl, rfl⟩, rfl⟩ := heq
          rw [part?, List.mk_mem_zipIdx_iff_getElem?.mp hchild]
          exact ih.mp hplace
      · intro hpart
        obtain ⟨child, hchild, hbelow⟩ := Option.bind_eq_some_iff.mp hpart
        refine .inr ⟨(child, position), List.mk_mem_zipIdx_iff_getElem?.mpr hchild, ?_⟩
        exact List.mem_map_of_mem (ih.mpr hbelow)

theorem snd_mem_nodes_of_mem_places {place : List Nat × Node α} (h : place ∈ node.places) :
    place.2 ∈ node.nodes :=
  mem_nodes_of_part? (mem_places_iff.mp h)

/-- All places but the first are below a child. -/
theorem exists_child_of_mem_drop_places {place : List Nat × Node α}
    (h : place ∈ node.places.drop 1) : ∃ child ∈ node.children, place.2 ∈ child.nodes := by
  rw [places_eq_cons, List.drop_succ_cons, List.drop_zero] at h
  obtain ⟨entry, hentry, hbelow⟩ := List.mem_flatMap.mp h
  obtain ⟨below, hplace, rfl⟩ := List.mem_map.mp hbelow
  have hpart : below.2 ∈ entry.1.nodes := snd_mem_nodes_of_mem_places hplace
  exact ⟨entry.1, List.fst_mem_of_mem_zipIdx hentry, hpart⟩

/-- The addresses go up from top to bottom. -/
theorem pairwise_places (node : Node α) :
    node.places.Pairwise fun place later => place.1 < later.1 := by
  induction node using treeInduction with
  | step node ih =>
      have hpositions : node.children.zipIdx.Pairwise fun entry later => entry.2 < later.2 := by
        rw [← List.pairwise_map, List.zipIdx_map_snd]
        exact List.pairwise_lt_range'
      rw [places_eq_cons, List.pairwise_cons]
      constructor
      · intro place hplace
        obtain ⟨entry, -, hbelow⟩ := List.mem_flatMap.mp hplace
        obtain ⟨below, -, rfl⟩ := List.mem_map.mp hbelow
        exact List.nil_lt_cons _ _
      · rw [List.pairwise_flatMap]
        constructor
        · intro entry hentry
          rw [List.pairwise_map]
          refine (ih entry.1 (List.fst_mem_of_mem_zipIdx hentry)).imp ?_
          intro place later hlt
          exact List.cons_lt_cons_iff.mpr (.inr ⟨rfl, hlt⟩)
        · refine hpositions.imp ?_
          intro entry later hlt place hplace next hnext
          obtain ⟨below, -, rfl⟩ := List.mem_map.mp hplace
          obtain ⟨below', -, rfl⟩ := List.mem_map.mp hnext
          exact List.cons_lt_cons_iff.mpr (.inl hlt)

/-! ## Levels -/

/-- The nodes of a tree with how deep they stand in it, from top to bottom. -/
def levels (node : Node α) : List (Nat × Node α) :=
  node.places.map fun place => (place.1.length, place.2)

theorem levels_eq_cons (node : Node α) :
    node.levels = (0, node) :: node.children.flatMap fun child =>
      child.levels.map fun level => (level.1 + 1, level.2) := by
  rw [levels, places_eq_cons, List.map_cons, List.map_flatMap, ← flatMap_zipIdx]
  simp [levels, Function.comp_def]

/-- The depths of the nodes, from top to bottom. -/
def depths (node : Node α) : List Nat := node.levels.map Prod.fst

theorem depths_eq_cons (node : Node α) :
    node.depths = 0 :: (node.children.flatMap depths).map (· + 1) := by
  rw [depths, levels_eq_cons, List.map_cons, List.map_flatMap, List.map_flatMap]
  simp [depths, Function.comp_def]

/-! ## Shapes -/

/-- The trees have nodes at the same addresses, with the same numbers of children. -/
def SameShape (node : Node α) (other : Node β) : Prop :=
  ∀ address, (node.part? address).map (fun part => part.children.length) =
    (other.part? address).map fun part => part.children.length

theorem sameShape_of_forall₂
    (h : List.Forall₂ SameShape node.children other.children) : node.SameShape other := by
  intro address
  cases address with
  | nil => exact congrArg some h.length_eq
  | cons position address =>
      rw [part?, part?]
      by_cases hposition : position < node.children.length
      · have hposition' : position < other.children.length := h.length_eq ▸ hposition
        rw [List.getElem?_eq_getElem hposition, List.getElem?_eq_getElem hposition']
        exact h.get hposition hposition' address
      · have hposition' : ¬ position < other.children.length := h.length_eq ▸ hposition
        rw [List.getElem?_eq_none (Nat.le_of_not_lt hposition),
          List.getElem?_eq_none (Nat.le_of_not_lt hposition')]
        rfl

/-- What comes below the first of several trees goes up to the next node on the level of the
first. -/
theorem depths_split (tree : Node α) (rest : List (Node α)) :
    let deeper := ((tree :: rest).flatMap depths).tail
    deeper.takeWhile (0 < ·) = (tree.children.flatMap depths).map (· + 1) ∧
      deeper.dropWhile (0 < ·) = rest.flatMap depths := by
  intro deeper
  have hdeeper : deeper =
      (tree.children.flatMap depths).map (· + 1) ++ rest.flatMap depths := by
    simp [deeper, depths_eq_cons tree]
  rw [hdeeper]
  apply Text.takeWhile_append_of_head?
  · intro depth hdepth
    obtain ⟨above, -, rfl⟩ := List.mem_map.mp hdepth
    simp
  · intro depth hdepth
    cases rest with
    | nil => cases hdepth
    | cons next later =>
        obtain rfl : 0 = depth := by simpa [depths_eq_cons next] using hdepth
        rfl

/-- Trees in a row have the same shapes as others if the depths of their nodes are the same. -/
theorem forall₂_sameShape_of_depths_eq {trees : List (Node α)} {others : List (Node β)}
    (htrees : ∀ tree ∈ trees, ∀ other : Node β,
      tree.children.flatMap depths = other.children.flatMap depths → tree.SameShape other)
    (h : trees.flatMap depths = others.flatMap depths) : List.Forall₂ SameShape trees others := by
  induction trees generalizing others with
  | nil =>
      cases others with
      | nil => exact .nil
      | cons other later => simp [depths_eq_cons other] at h
  | cons tree rest ih =>
      cases others with
      | nil => simp [depths_eq_cons tree] at h
      | cons other later =>
          obtain ⟨hbelow, hrest⟩ := depths_split tree rest
          obtain ⟨hbelow', hrest'⟩ := depths_split other later
          rw [h] at hbelow hrest
          have hsame : tree.children.flatMap depths = other.children.flatMap depths :=
            List.map_injective_iff.mpr (fun _ _ => Nat.succ.inj) (hbelow.symm.trans hbelow')
          apply List.Forall₂.cons
          · exact htrees tree List.mem_cons_self other hsame
          · exact ih (fun next hnext => htrees next (List.mem_cons_of_mem tree hnext))
              (hrest.symm.trans hrest')

/-- The depths of the nodes tell the shape of a tree. -/
theorem sameShape_of_depths_eq
    (h : node.children.flatMap depths = other.children.flatMap depths) :
    node.SameShape other := by
  induction node using treeInduction generalizing other with
  | step node ih =>
      apply sameShape_of_forall₂
      exact forall₂_sameShape_of_depths_eq (fun child hchild other hsame => ih child hchild hsame) h

end CommandTree.Node
