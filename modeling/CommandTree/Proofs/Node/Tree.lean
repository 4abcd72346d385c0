import CommandTree.Node.Basic
import Mathlib.Data.List.Basic

/-!
# Induction over command trees

A tree is proved to have a property by proving it of each node, given that the
children have it.  This module provides that principle, together with the
hereditary predicate `Node.AllTypes`, which says that a property holds of every
argument type used in a tree.
-/

namespace CommandTree.Node

variable {α : Type}

/-- A property that each node inherits from its children holds of all trees. -/
@[elab_as_elim]
theorem treeInduction {motive : Node α → Prop} (node : Node α)
    (step : ∀ node : Node α, (∀ child ∈ node.children, motive child) → motive node) :
    motive node := by
  refine Node.rec (motive_1 := motive)
    (motive_2 := fun nodes => ∀ child ∈ nodes, motive child) ?_ ?_ ?_ node
  · intro kind children action optional description ih
    exact step ⟨kind, children, action, optional, description⟩ ih
  · intro child hchild
    exact absurd hchild List.not_mem_nil
  · intro head tail hhead htail child hchild
    rcases List.mem_cons.mp hchild with rfl | hmem
    · exact hhead
    · exact htail child hmem

theorem nodesOfAll_eq_flatMap (trees : List (Node α)) :
    nodesOfAll trees = trees.flatMap nodes := by
  induction trees with
  | nil => simp [nodesOfAll]
  | cons tree rest ih => simp [nodesOfAll, ih]

/-- The nodes of a tree are its root and the nodes below each child. -/
theorem nodes_eq_cons (node : Node α) :
    node.nodes = node :: node.children.flatMap nodes := by
  obtain ⟨kind, children, action, optional, description⟩ := node
  rw [nodes, nodesOfAll_eq_flatMap]

theorem self_mem_nodes (node : Node α) : node ∈ node.nodes := by
  rw [nodes_eq_cons]
  exact List.mem_cons_self

theorem mem_nodes_of_mem_child {node child part : Node α}
    (hchild : child ∈ node.children) (hpart : part ∈ child.nodes) :
    part ∈ node.nodes := by
  rw [nodes_eq_cons]
  exact List.mem_cons_of_mem _ (List.mem_flatMap.mpr ⟨child, hchild, hpart⟩)

/-- `P` holds of every argument type used in the tree. -/
def AllTypes (P : ArgumentType → Prop) (node : Node α) : Prop :=
  ∀ part ∈ node.nodes, ∀ name type, part.kind = .argument name type → P type

theorem AllTypes.of_mem_children {P : ArgumentType → Prop} {node child : Node α}
    (h : node.AllTypes P) (hchild : child ∈ node.children) : child.AllTypes P := by
  intro part hpart
  exact h part (mem_nodes_of_mem_child hchild hpart)

theorem AllTypes.of_mem_nodes {P : ArgumentType → Prop} {node part : Node α}
    (h : node.AllTypes P) (hpart : part ∈ node.nodes) : part.AllTypes P := by
  induction node using treeInduction with
  | step node ih =>
      rw [nodes_eq_cons] at hpart
      rcases List.mem_cons.mp hpart with rfl | hbelow
      · exact h
      · obtain ⟨child, hchild, hmem⟩ := List.mem_flatMap.mp hbelow
        exact ih child hchild (h.of_mem_children hchild) hmem

theorem AllTypes.own {P : ArgumentType → Prop} {node : Node α} {name : String}
    {type : ArgumentType} (h : node.AllTypes P)
    (hkind : node.kind = .argument name type) : P type :=
  h node node.self_mem_nodes name type hkind

theorem AllTypes.mono {P Q : ArgumentType → Prop} {node : Node α}
    (h : node.AllTypes P) (hPQ : ∀ type, P type → Q type) : node.AllTypes Q := by
  intro part hpart name type hkind
  exact hPQ type (h part hpart name type hkind)

end CommandTree.Node
