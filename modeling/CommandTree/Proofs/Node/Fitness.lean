import CommandTree.Proofs.Node.Tree
import CommandTree.Proofs.Text.Word

/-!
# Trees that are fit to match

A literal is fit if it is a word, an argument if it has a name; a root stands for a
whole tree and is never fit to be part of one.  A tree is fit if all its nodes are.

What is wrong with a tree is what is wrong with its first unfit node.  Nodes are
ordered by their addresses, lexicographically: each comes before those below it, and
these come before its later siblings.
-/

namespace CommandTree

/-- A node of this kind can match something. -/
def NodeKind.IsFit : NodeKind → Prop
  | root => False
  | literal token => token ≠ "" ∧ Text.IsWord token.toList
  | argument name _ => name ≠ ""

theorem NodeKind.fault?_eq_none_iff {kind : NodeKind} :
    kind.fault? = none ↔ kind.IsFit := by
  cases kind with
  | root => simp [fault?, IsFit]
  | literal token =>
      by_cases hempty : token = ""
      · simp [fault?, IsFit, hempty]
      · simp [fault?, IsFit, hempty, Text.IsWord]
  | argument name type => simp [fault?, IsFit]

namespace Node

variable {α : Type}

def IsFit (node : Node α) : Prop :=
  ∀ part ∈ node.nodes, part.kind.IsFit

theorem IsFit.own {node : Node α} (h : node.IsFit) : node.kind.IsFit :=
  h node node.self_mem_nodes

theorem IsFit.of_mem_children {node child : Node α} (h : node.IsFit)
    (hchild : child ∈ node.children) : child.IsFit := by
  intro part hpart
  exact h part (mem_nodes_of_mem_child hchild hpart)

theorem literal?_eq_some_iff {node : Node α} {token : String} :
    node.literal? = some token ↔ node.kind = .literal token := by
  unfold literal?
  cases node.kind <;> simp [NodeKind.literal?]

theorem IsFit.isWord {node : Node α} {token : String} (h : node.IsFit)
    (htoken : node.literal? = some token) : token ≠ "" ∧ Text.IsWord token.toList := by
  have hown := h.own
  rw [literal?_eq_some_iff.mp htoken] at hown
  exact hown

/-- The node at an address, which lists the child positions on the way down. -/
def part? : Node α → List Nat → Option (Node α)
  | node, [] => some node
  | node, position :: address => do
      let child ← node.children[position]?
      part? child address

/-- `part` is the first node of the tree that is not fit, from top to bottom. -/
def IsFirstUnfit (node part : Node α) : Prop :=
  ∃ address, node.part? address = some part ∧ ¬ part.kind.IsFit ∧
    ∀ earlier < address, ∀ other, node.part? earlier = some other →
      other.kind.IsFit

theorem mem_nodes_of_part? {node part : Node α} {address : List Nat}
    (h : node.part? address = some part) : part ∈ node.nodes := by
  induction address generalizing node with
  | nil =>
      obtain rfl := Option.some.inj h
      exact node.self_mem_nodes
  | cons position address ih =>
      obtain ⟨child, hchild, hpart⟩ := Option.bind_eq_some_iff.mp h
      exact mem_nodes_of_mem_child (List.mem_of_getElem? hchild) (ih hpart)

/-! ## The first fault -/

/-- What is wrong with a tree is wrong with its root or else with a tree below it. -/
theorem fault?_eq (node : Node α) :
    node.fault? = node.kind.fault?.or (node.children.findSome? fault?) := by
  have hbelow : (node.children.flatMap nodes).findSome? (fun part => part.kind.fault?) =
      node.children.findSome? fault? := by
    induction node.children with
    | nil => rfl
    | cons child rest ih =>
        rw [List.flatMap_cons, List.findSome?_append, ih, List.findSome?_cons]
        rw [fault?]
        cases child.nodes.findSome? fun part => part.kind.fault? <;> rfl
  rw [fault?, nodes_eq_cons, List.findSome?_cons, hbelow]
  cases node.kind.fault? <;> rfl

theorem fault?_eq_none_iff {node : Node α} : node.fault? = none ↔ node.IsFit := by
  rw [fault?, List.findSome?_eq_none_iff]
  constructor
  · intro h part hpart
    exact NodeKind.fault?_eq_none_iff.mp (h part hpart)
  · intro h part hpart
    exact NodeKind.fault?_eq_none_iff.mpr (h part hpart)

/-- The fault of a tree is that of its first unfit node. -/
theorem exists_isFirstUnfit {node : Node α} {fault : RegistrationFault}
    (h : node.fault? = some fault) :
    ∃ part, node.IsFirstUnfit part ∧ part.kind.fault? = some fault := by
  induction node using treeInduction with
  | step node ih =>
      rw [fault?_eq, Option.or_eq_some_iff] at h
      rcases h with hown | ⟨hown, hbelow⟩
      · refine ⟨node, ⟨[], rfl, ?_, ?_⟩, hown⟩
        · intro hfit
          simp [NodeKind.fault?_eq_none_iff.mpr hfit] at hown
        · intro earlier hearlier
          exact absurd hearlier (List.not_lt_nil earlier)
      · obtain ⟨front, child, back, hchildren, hchild, hfront⟩ :=
          List.findSome?_eq_some_iff.mp hbelow
        have hmem : child ∈ node.children := by simp [hchildren]
        obtain ⟨part, ⟨address, hpart, hunfit, hfirst⟩, hfault⟩ := ih child hmem hchild
        have hposition : node.children[front.length]? = some child := by
          simp [hchildren]
        refine ⟨part, ⟨front.length :: address, ?_, hunfit, ?_⟩, hfault⟩
        · simp [part?, hposition, hpart]
        · rintro (_ | ⟨position, earlier⟩) hearlier other hother
          · obtain rfl := Option.some.inj hother
            exact NodeKind.fault?_eq_none_iff.mp hown
          · obtain ⟨sibling, hsibling, hother⟩ := Option.bind_eq_some_iff.mp hother
            rcases List.cons_lt_cons_iff.mp hearlier with hlt | ⟨rfl, hlt⟩
            · -- An earlier sibling is fit from top to bottom.
              rw [hchildren, List.getElem?_append_left hlt] at hsibling
              have hnone := hfront sibling (List.mem_of_getElem? hsibling)
              exact fault?_eq_none_iff.mp hnone other (mem_nodes_of_part? hother)
            · obtain rfl := Option.some.inj (hposition.symm.trans hsibling)
              exact hfirst earlier hlt other hother

/-! ## Trees in use -/

variable {node : Node α}

/-- The tree can be registered, or it is a root above trees that can. -/
def IsMounted (node : Node α) : Prop :=
  node.fault? = none ∨ node.kind = .root ∧ ∀ child ∈ node.children, child.fault? = none

theorem IsMounted.isFit_of_mem_children (h : node.IsMounted) {child : Node α}
    (hchild : child ∈ node.children) : child.IsFit := by
  rcases h with hvalid | ⟨-, hchildren⟩
  · exact (fault?_eq_none_iff.mp hvalid).of_mem_children hchild
  · exact fault?_eq_none_iff.mp (hchildren child hchild)

theorem IsMounted.of_mem_children (h : node.IsMounted) {child : Node α}
    (hchild : child ∈ node.children) : child.IsMounted :=
  .inl (fault?_eq_none_iff.mpr (h.isFit_of_mem_children hchild))

theorem IsMounted.isWord (h : node.IsMounted) {token : String}
    (hkind : node.kind = .literal token) : Text.IsWord token.toList := by
  rcases h with hvalid | ⟨hroot, -⟩
  · exact ((fault?_eq_none_iff.mp hvalid).isWord (literal?_eq_some_iff.mpr hkind)).2
  · cases hkind.symm.trans hroot

end Node

end CommandTree
