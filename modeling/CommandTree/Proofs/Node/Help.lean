import CommandTree.Node.Help
import CommandTree.Proofs.Node.Preorder
import CommandTree.Proofs.Text.Margin

/-!
# The lines of the help

The help on a tree is made up of whole lines (`endsLine_help`).  If the tree can be registered,
there is one line for each node, from top to bottom, and the help on a root has the lines of the
trees below it (`help_eq_joinLines`).  A line is set in by two spaces for each level above it,
and what follows these spaces does not begin with one (`isShownBy_helpLine`).

Where no name and no description has a line feed, the lines can be told apart again.  How far
each is set in tells how deep its node stands, and that tells the shape of the tree
(`help_tells_shape`).
-/

namespace CommandTree

namespace Node

open Text

variable {α β : Type} {node part : Node α} {label : String}

/-! ## The line for one node -/

/-- How a node is called in the help. -/
inductive IsCalled (part : Node α) : String → Prop where
  | literal {token : String} (hkind : part.kind = .literal token) : IsCalled part token
  | required {name : String} {type : ArgumentType} (hkind : part.kind = .argument name type)
      (hflag : part.optional = false) : IsCalled part ("<" ++ name ++ ">")
  | optional {name : String} {type : ArgumentType} (hkind : part.kind = .argument name type)
      (hflag : part.optional = true) : IsCalled part ("<" ++ name ++ ">" ++ " [optional]")

/-- What the help adds about a node. -/
inductive IsRemarked (part : Node α) : String → Prop where
  | without (hempty : part.description = "") : IsRemarked part ""
  | described (hne : part.description ≠ "") : IsRemarked part (" - " ++ part.description)

/-- The line shows the node, set in by exactly so many spaces. -/
structure IsShownBy (part : Node α) (width : Nat) (line : String) : Prop where
  parts : ∃ label remark, part.IsCalled label ∧ part.IsRemarked remark ∧
    line = spaces width ++ label ++ remark
  margin_eq : margin line = width
  single : '\n' ∉ line.toList

/-- The line for a node that is set in by so many spaces. -/
def helpLine (width : Nat) (part : Node α) : String :=
  spaces width ++ (part.kind.label? part.optional).getD "" ++ describedBy part.description

/-- No name of an argument and no description in the tree has a line feed. -/
def IsPlain (node : Node α) : Prop :=
  ∀ part ∈ node.nodes, (∀ name ∈ part.argument?, '\n' ∉ name.toList) ∧
    '\n' ∉ part.description.toList

theorem ne_root_of_isFit (hfit : part.kind.IsFit) : part.kind ≠ .root := by
  intro hroot
  rw [hroot] at hfit
  exact hfit

theorem exists_label? (hfit : part.kind.IsFit) (optional : Bool) :
    ∃ label, part.kind.label? optional = some label := by
  cases hkind : part.kind with
  | root => exact absurd hkind (ne_root_of_isFit hfit)
  | literal token => exact ⟨_, rfl⟩
  | argument name type => exact ⟨_, rfl⟩

theorem isCalled_of_label? (hlabel : part.kind.label? part.optional = some label) :
    part.IsCalled label := by
  cases hkind : part.kind with
  | root => simp [hkind, NodeKind.label?] at hlabel
  | literal token =>
      obtain rfl : token = label := by simpa [hkind, NodeKind.label?] using hlabel
      exact .literal hkind
  | argument name type =>
      by_cases hflag : part.optional = true
      · obtain rfl : "<" ++ name ++ ">" ++ " [optional]" = label := by
          simpa [hkind, NodeKind.label?, hflag] using hlabel
        exact .optional hkind hflag
      · have hflag' : part.optional = false := Bool.eq_false_iff.mpr hflag
        obtain rfl : "<" ++ name ++ ">" = label := by
          simpa [hkind, NodeKind.label?, hflag'] using hlabel
        exact .required hkind hflag'

/-- What a fit node is called begins with a visible character. -/
theorem IsCalled.visible (h : part.IsCalled label) (hfit : part.kind.IsFit) :
    ∃ first rest, label.toList = first :: rest ∧ first ≠ ' ' := by
  cases h with
  | literal hkind =>
      rw [hkind] at hfit
      obtain ⟨first, rest, hchars⟩ := List.exists_cons_of_ne_nil
        (mt String.toList_eq_nil_iff.mp hfit.1)
      refine ⟨first, rest, hchars, ?_⟩
      rintro rfl
      have hblank := hfit.2 ' ' (by simp [hchars])
      exact absurd hblank (by decide)
  | @required name =>
      exact ⟨'<', name.toList ++ ['>'], by simp, by decide⟩
  | @optional name =>
      exact ⟨'<', name.toList ++ '>' :: " [optional]".toList, by simp, by decide⟩

theorem IsCalled.not_mem (h : part.IsCalled label) (hfit : part.kind.IsFit)
    (hname : ∀ name ∈ part.argument?, '\n' ∉ name.toList) : '\n' ∉ label.toList := by
  cases h with
  | literal hkind =>
      intro hmem
      rw [hkind] at hfit
      have hblank := hfit.2 '\n' hmem
      exact absurd hblank (by decide)
  | @required name _ hkind =>
      have hplain := hname name (by simp [argument?, hkind, NodeKind.argument?])
      simp [hplain]
  | @optional name _ hkind =>
      have hplain := hname name (by simp [argument?, hkind, NodeKind.argument?])
      simp [hplain]

theorem isRemarked_describedBy (part : Node α) :
    part.IsRemarked (describedBy part.description) := by
  rw [describedBy]
  by_cases hempty : part.description = ""
  · simpa [hempty] using IsRemarked.without hempty
  · simpa [hempty] using IsRemarked.described hempty

theorem IsRemarked.not_mem {remark : String} (h : part.IsRemarked remark)
    (hdescription : '\n' ∉ part.description.toList) : '\n' ∉ remark.toList := by
  cases h with
  | without => simp
  | described => simp [hdescription]

/-- The line for a fit node shows it. -/
theorem isShownBy_helpLine (hfit : part.kind.IsFit)
    (hname : ∀ name ∈ part.argument?, '\n' ∉ name.toList)
    (hdescription : '\n' ∉ part.description.toList) (width : Nat) :
    part.IsShownBy width (part.helpLine width) := by
  obtain ⟨label, hlabel⟩ := exists_label? hfit part.optional
  have hcalled := isCalled_of_label? hlabel
  have hremarked := part.isRemarked_describedBy
  have hline : part.helpLine width = spaces width ++ (label ++ describedBy part.description) := by
    rw [helpLine, hlabel, Option.getD_some, String.append_assoc]
  refine ⟨⟨label, _, hcalled, hremarked, ?_⟩, ?_, ?_⟩
  · rw [hline, String.append_assoc]
  · obtain ⟨first, rest, hchars, hfirst⟩ := hcalled.visible hfit
    rw [hline]
    apply margin_spaces_append
    intro c hc
    obtain rfl : first = c := by simpa [hchars] using hc
    exact hfirst
  · have hlabel := hcalled.not_mem hfit hname
    have hremark := hremarked.not_mem hdescription
    rw [hline]
    simp [spaces, hlabel, hremark]

/-! ## The text for a tree -/

theorem helpAll_eq_join (indent : String) (trees : List (Node α)) :
    helpAll indent trees = String.join (trees.map (help indent)) := by
  induction trees with
  | nil => rfl
  | cons tree rest ih => rw [helpAll, ih, List.map_cons, String.join_cons]

theorem help_of_label?_eq_none (hlabel : node.kind.label? node.optional = none)
    (indent : String) : node.help indent = String.join (node.children.map (help indent)) := by
  obtain ⟨kind, children, action, optional, description⟩ := node
  have hlabel : kind.label? optional = none := hlabel
  rw [help, hlabel, ← helpAll_eq_join]

theorem help_of_root (hkind : node.kind = .root) (indent : String) :
    node.help indent = String.join (node.children.map (help indent)) := by
  apply help_of_label?_eq_none
  rw [hkind, NodeKind.label?]

theorem help_of_label?_eq_some (hlabel : node.kind.label? node.optional = some label)
    (indent : String) :
    node.help indent = indent ++ label ++ describedBy node.description ++ "\n" ++
      String.join (node.children.map (help (indent ++ indentStep))) := by
  obtain ⟨kind, children, action, optional, description⟩ := node
  have hlabel : kind.label? optional = some label := hlabel
  rw [help, hlabel, ← helpAll_eq_join]

/-- The help on a literal begins with its word. -/
theorem head?_help {token : String} (htoken : node.literal? = some token) (hne : token ≠ "") :
    (node.help "").toList.head? = token.toList.head? := by
  have hlabel : node.kind.label? node.optional = some token := by
    rw [literal?_eq_some_iff.mp htoken, NodeKind.label?]
  obtain ⟨c, rest, hchars⟩ := List.exists_cons_of_ne_nil (mt String.toList_eq_nil_iff.mp hne)
  rw [help_of_label?_eq_some hlabel]
  simp [hchars]

/-! ## Whole lines -/

/-- The text is empty or its last character ends a line. -/
def EndsLine (text : String) : Prop := ∀ c ∈ text.toList.getLast?, c = '\n'

theorem EndsLine.append {front back : String} (hfront : EndsLine front)
    (hback : EndsLine back) : EndsLine (front ++ back) := by
  intro c hc
  rw [String.toList_append, List.getLast?_append, Option.mem_def, Option.or_eq_some_iff] at hc
  rcases hc with hlast | ⟨-, hlast⟩
  · exact hback c hlast
  · exact hfront c hlast

theorem EndsLine.join {texts : List String} (h : ∀ text ∈ texts, EndsLine text) :
    EndsLine (String.join texts) := by
  induction texts with
  | nil => simp [EndsLine]
  | cons text rest ih =>
      rw [List.forall_mem_cons] at h
      rw [String.join_cons]
      exact h.1.append (ih h.2)

/-- The help on a tree is made up of whole lines. -/
theorem endsLine_help (node : Node α) (indent : String) : EndsLine (node.help indent) := by
  induction node using treeInduction generalizing indent with
  | step node ih =>
      have hbelow : ∀ indent, EndsLine (String.join (node.children.map (help indent))) := by
        intro indent
        apply EndsLine.join
        rw [List.forall_mem_map]
        intro child hchild
        exact ih child hchild indent
      cases hlabel : node.kind.label? node.optional with
      | none =>
          rw [help_of_label?_eq_none hlabel]
          exact hbelow indent
      | some label =>
          rw [help_of_label?_eq_some hlabel]
          apply EndsLine.append _ (hbelow _)
          simp [EndsLine]

/-! ## The lines for a tree -/

/-- The help on a tree that can be registered has a line for each node. -/
theorem help_of_isFit (hfit : node.IsFit) (width : Nat) :
    node.help (spaces width) =
      joinLines (node.levels.map fun level => level.2.helpLine (width + 2 * level.1)) := by
  induction node using treeInduction generalizing width with
  | step node ih =>
      obtain ⟨label, hlabel⟩ := exists_label? hfit.own node.optional
      have hbelow : ∀ child ∈ node.children, child.help (spaces (width + 2)) =
          joinLines (child.levels.map fun level =>
            level.2.helpLine (width + 2 * (level.1 + 1))) := by
        intro child hchild
        have hindent : ∀ level, width + 2 + 2 * level = width + 2 * (level + 1) := by omega
        rw [ih child hchild (hfit.of_mem_children hchild)]
        simp only [hindent]
      have hstep : spaces width ++ indentStep = spaces (width + 2) := (spaces_add width 2).symm
      rw [help_of_label?_eq_some hlabel, hstep, List.map_congr_left hbelow, ← joinLines_flatMap,
        levels_eq_cons, List.map_cons, joinLines_cons, List.map_flatMap]
      simp only [List.map_map, Function.comp_def, Nat.mul_zero, Nat.add_zero, helpLine, hlabel,
        Option.getD_some]

/-- How many levels of a tree have no line: only that of a root. -/
def lead (node : Node α) : Nat :=
  match node.kind with
  | .root => 1
  | _ => 0

theorem lead_of_root (hkind : node.kind = .root) : node.lead = 1 := by
  rw [lead, hkind]

theorem lead_of_ne_root (hkind : node.kind ≠ .root) : node.lead = 0 := by
  rw [lead]
  split
  · contradiction
  · rfl

/-- The lines of the help on a tree, with the addresses of the nodes they are for. -/
def helpLines (width : Nat) (node : Node α) : List (List Nat × String) :=
  (node.places.drop node.lead).map fun place =>
    (place.1, place.2.helpLine (width + 2 * (place.1.length - node.lead)))

/-- The help on a tree is made of its lines. -/
theorem help_eq_joinLines (hnode : node.IsMounted) (width : Nat) :
    node.help (spaces width) = joinLines ((node.helpLines width).map Prod.snd) := by
  rcases hnode with hvalid | ⟨hroot, hchildren⟩
  · have hfit := fault?_eq_none_iff.mp hvalid
    rw [help_of_isFit hfit, helpLines, lead_of_ne_root (ne_root_of_isFit hfit.own), levels]
    simp only [List.drop_zero, List.map_map, Function.comp_def, Nat.sub_zero]
  · have hbelow : ∀ child ∈ node.children, child.help (spaces width) =
        joinLines (child.levels.map fun level => level.2.helpLine (width + 2 * level.1)) := by
      intro child hchild
      exact help_of_isFit (fault?_eq_none_iff.mp (hchildren child hchild)) width
    have hlines : (node.helpLines width).map Prod.snd =
        (node.levels.drop 1).map fun level => level.2.helpLine (width + 2 * (level.1 - 1)) := by
      rw [helpLines, lead_of_root hroot, levels, ← List.map_drop]
      simp only [List.map_map, Function.comp_def]
    rw [hlines, help_of_root hroot, List.map_congr_left hbelow, ← joinLines_flatMap,
      levels_eq_cons, List.drop_succ_cons, List.drop_zero, List.map_flatMap]
    simp only [List.map_map, Function.comp_def, Nat.add_sub_cancel]

/-- The nodes with lines are all but a root. -/
theorem mem_drop_places_iff (hnode : node.IsMounted) {address : List Nat} :
    (address, part) ∈ node.places.drop node.lead ↔
      node.part? address = some part ∧ part.kind.IsFit := by
  rcases hnode with hvalid | ⟨hroot, hchildren⟩
  · have hfit := fault?_eq_none_iff.mp hvalid
    rw [lead_of_ne_root (ne_root_of_isFit hfit.own), List.drop_zero, mem_places_iff]
    constructor
    · intro hpart
      exact ⟨hpart, hfit part (mem_nodes_of_part? hpart)⟩
    · exact And.left
  · rw [lead_of_root hroot]
    constructor
    · intro hmem
      obtain ⟨child, hchild, hpart⟩ := exists_child_of_mem_drop_places hmem
      have hfit := fault?_eq_none_iff.mp (hchildren child hchild)
      exact ⟨mem_places_iff.mp (List.mem_of_mem_drop hmem), hfit part hpart⟩
    · rintro ⟨hpart, hfit⟩
      have hmem := mem_places_iff.mpr hpart
      rw [places_eq_cons, List.mem_cons] at hmem
      rcases hmem with hself | hbelow
      · obtain ⟨-, rfl⟩ := Prod.mk.inj hself
        exact absurd hroot (ne_root_of_isFit hfit)
      · rw [places_eq_cons]
        exact hbelow

/-- The lines are the help on the tree, set in by so many spaces: one for each node but a root,
from top to bottom. -/
structure IsLaidOut (node : Node α) (width : Nat) (lines : List (List Nat × String)) : Prop where
  ordered : lines.Pairwise fun line later => line.1 < later.1
  complete : ∀ address, address ∈ lines.map Prod.fst ↔
    ∃ part, node.part? address = some part ∧ part.kind ≠ .root
  shows : ∀ line ∈ lines, ∀ part, node.part? line.1 = some part →
    part.IsShownBy (width + 2 * (line.1.length - node.lead)) line.2

theorem IsMounted.isFit_of_mem_nodes (h : node.IsMounted) (hpart : part ∈ node.nodes)
    (hkind : part.kind ≠ .root) : part.kind.IsFit := by
  rw [nodes_eq_cons, List.mem_cons, List.mem_flatMap] at hpart
  rcases hpart with rfl | ⟨child, hchild, hpart⟩
  · rcases h with hvalid | ⟨hroot, -⟩
    · exact (fault?_eq_none_iff.mp hvalid).own
    · exact absurd hroot hkind
  · exact h.isFit_of_mem_children hchild part hpart

theorem isLaidOut_helpLines (hnode : node.IsMounted) (hplain : node.IsPlain) (width : Nat) :
    node.IsLaidOut width (node.helpLines width) := by
  refine ⟨?_, ?_, ?_⟩
  · rw [helpLines, List.pairwise_map]
    exact node.pairwise_places.drop
  · intro address
    have haddresses : (node.helpLines width).map Prod.fst =
        (node.places.drop node.lead).map Prod.fst := by
      rw [helpLines, List.map_map]
      rfl
    rw [haddresses]
    constructor
    · intro hmem
      obtain ⟨⟨_, part⟩, hplace, rfl⟩ := List.mem_map.mp hmem
      obtain ⟨hpart, hfit⟩ := (mem_drop_places_iff hnode).mp hplace
      exact ⟨part, hpart, ne_root_of_isFit hfit⟩
    · rintro ⟨part, hpart, hkind⟩
      have hfit := hnode.isFit_of_mem_nodes (mem_nodes_of_part? hpart) hkind
      exact List.mem_map_of_mem ((mem_drop_places_iff hnode).mpr ⟨hpart, hfit⟩)
  · intro line hline part hpart
    obtain ⟨⟨address, found⟩, hplace, rfl⟩ := List.mem_map.mp hline
    obtain ⟨hfound, hfit⟩ := (mem_drop_places_iff hnode).mp hplace
    obtain rfl := Option.some.inj (hfound.symm.trans hpart)
    obtain ⟨hname, hdescription⟩ := hplain found (mem_nodes_of_part? hfound)
    exact isShownBy_helpLine hfit hname hdescription _

/-! ## What the lines tell -/

theorem isShownBy_of_mem_helpLines (hnode : node.IsMounted) (hplain : node.IsPlain)
    {width : Nat} {line : List Nat × String} (hline : line ∈ node.helpLines width) :
    ∃ part : Node α, part.IsShownBy (width + 2 * (line.1.length - node.lead)) line.2 := by
  have hlaid := isLaidOut_helpLines hnode hplain width
  obtain ⟨part, hpart, -⟩ := (hlaid.complete line.1).mp (List.mem_map_of_mem hline)
  exact ⟨part, hlaid.shows line hline part hpart⟩

theorem not_mem_helpLines (hnode : node.IsMounted) (hplain : node.IsPlain) {width : Nat} :
    ∀ line ∈ (node.helpLines width).map Prod.snd, '\n' ∉ line.toList := by
  intro line hline
  obtain ⟨line, hmem, rfl⟩ := List.mem_map.mp hline
  obtain ⟨part, hshown⟩ := isShownBy_of_mem_helpLines hnode hplain hmem
  exact hshown.single

/-- How far the lines are set in tells the depths of the nodes. -/
theorem map_margin_helpLines (hnode : node.IsMounted) (hplain : node.IsPlain) (width : Nat) :
    ((node.helpLines width).map Prod.snd).map margin =
      (node.depths.drop node.lead).map fun depth => width + 2 * (depth - node.lead) := by
  have hmargin : ∀ line ∈ node.helpLines width,
      margin line.2 = width + 2 * (line.1.length - node.lead) := by
    intro line hline
    obtain ⟨part, hshown⟩ := isShownBy_of_mem_helpLines hnode hplain hline
    exact hshown.margin_eq
  calc
    ((node.helpLines width).map Prod.snd).map margin =
        (node.helpLines width).map fun line => margin line.2 := List.map_map
    _ = (node.helpLines width).map fun line => width + 2 * (line.1.length - node.lead) :=
      List.map_congr_left hmargin
    _ = _ := by
      rw [helpLines, depths, levels, ← List.map_drop, ← List.map_drop]
      simp only [List.map_map, Function.comp_def]

/-- Trees with lines that are set in alike have the same depths below their first nodes. -/
theorem depths_children_eq {other : Node β} {width : Nat}
    (hkind : node.kind = .root ↔ other.kind = .root)
    (h : ((node.depths.drop node.lead).map fun depth => width + 2 * (depth - node.lead)) =
      (other.depths.drop other.lead).map fun depth => width + 2 * (depth - other.lead)) :
    node.children.flatMap depths = other.children.flatMap depths := by
  have hinjective : Function.Injective fun depth => width + 2 * depth := by
    intro depth depth' heq
    have hwidth : width + 2 * depth = width + 2 * depth' := heq
    omega
  have hstep : Function.Injective fun depth : Nat => depth + 1 := fun _ _ => Nat.succ.inj
  by_cases hroot : node.kind = .root
  · rw [lead_of_root hroot, lead_of_root (hkind.mp hroot), depths_eq_cons, depths_eq_cons] at h
    apply List.map_injective_iff.mpr hinjective
    simpa [Function.comp_def] using h
  · rw [lead_of_ne_root hroot, lead_of_ne_root (mt hkind.mpr hroot)] at h
    have hdepths : node.depths = other.depths := List.map_injective_iff.mpr hinjective h
    rw [depths_eq_cons, depths_eq_cons, List.cons.injEq] at hdepths
    exact List.map_injective_iff.mpr hstep hdepths.2

/-- The lines of the help say what is in a tree, and they tell its shape. -/
theorem help_tells_shape {indent : String} (hnode : node.IsMounted) (hplain : node.IsPlain)
    (hindent : ∀ c ∈ indent.toList, c = ' ') :
    (∃ lines, node.IsLaidOut indent.length lines ∧
      node.help indent = joinLines (lines.map Prod.snd)) ∧
    ∀ {β : Type} (other : Node β), other.IsMounted → other.IsPlain →
      (node.kind = .root ↔ other.kind = .root) → node.help indent = other.help indent →
      node.SameShape other := by
  rw [eq_spaces_length hindent, length_spaces]
  generalize indent.length = width
  refine ⟨⟨_, isLaidOut_helpLines hnode hplain width, help_eq_joinLines hnode width⟩, ?_⟩
  intro β other hother hplain' hkind hhelp
  rw [help_eq_joinLines hnode, help_eq_joinLines hother] at hhelp
  have hlines := eq_of_joinLines_eq (not_mem_helpLines hnode hplain)
    (not_mem_helpLines hother hplain') hhelp
  apply sameShape_of_depths_eq
  apply depths_children_eq hkind
  rw [← map_margin_helpLines hnode hplain, ← map_margin_helpLines hother hplain', hlines]

/-- A word above an argument, with a word below it, and above another word. -/
def deepTree : Node Nat :=
  { kind := .literal "a"
    children :=
      [{ kind := .argument "x" (.text {})
         children := [{ kind := .literal "b", action := some 1 }] },
        { kind := .literal "c", action := some 2 }] }

/-- The same with a word in angle brackets for the argument. -/
def bracketTree : Node Nat :=
  { kind := .literal "a"
    children :=
      [{ kind := .literal "<x>"
         children := [{ kind := .literal "b", action := some 1 }] },
        { kind := .literal "c", action := some 2 }] }

/-- The help does not tell the argument from the word, but the shape is the same. -/
theorem help_shows_argument_like_bracketed_word :
    deepTree.IsMounted ∧ deepTree.IsPlain ∧ (∀ c ∈ "  ".toList, c = ' ') ∧
    deepTree.help "  " = "  a\n    <x>\n      b\n    c\n" ∧
    (∃ lines, deepTree.IsLaidOut 2 lines ∧
      deepTree.help "  " = joinLines (lines.map Prod.snd)) ∧
    bracketTree.help "  " = deepTree.help "  " ∧ deepTree.SameShape bracketTree := by
  have hmounted : deepTree.IsMounted := .inl (by decide +kernel)
  have hmounted' : bracketTree.IsMounted := .inl (by decide +kernel)
  have hplain : deepTree.IsPlain := by
    simp [IsPlain, deepTree, nodes, nodesOfAll, argument?, NodeKind.argument?]
  have hplain' : bracketTree.IsPlain := by
    simp [IsPlain, bracketTree, nodes, nodesOfAll, argument?, NodeKind.argument?]
  have hindent : ∀ c ∈ "  ".toList, c = ' ' := by simp
  have hkind : deepTree.kind = .root ↔ bracketTree.kind = .root := by
    simp [deepTree, bracketTree]
  have hhelp : deepTree.help "  " = bracketTree.help "  " := by decide +kernel
  obtain ⟨hlines, hshape⟩ := help_tells_shape hmounted hplain hindent
  exact ⟨hmounted, hplain, hindent, by decide +kernel, hlines, hhelp.symm,
    hshape bracketTree hmounted' hplain' hkind hhelp⟩

end Node

end CommandTree
