import CommandTree.Proofs.Argument.Extract
import CommandTree.Proofs.Node.Lockstep

/-!
# Blanks at the end of a line

More blanks at the end of a line leave the words of the line as they are.  They matter in
one place: a line that ended with a literal does not end with it any more.  The literal then
goes through its children, none of which finds a word, and takes the line by its own action,
if it has one.

So with more blanks a line is taken only if it is without them, and if every literal has an
action then it is taken in the same way (`trailing_blanks_keep_walk`).
-/

namespace CommandTree

open Text

/-! ## Longer lines -/

/-- The same state on a line with more text at its end. -/
def Context.extend (tail : List Char) (context : Context) : Context :=
  { context with cursor := context.cursor.extend tail }

/-- The same reading on a line with more text at its end. -/
def Reading.extend (tail : List Char) (reading : Reading) : Reading :=
  { reading with context := reading.context.extend tail }

/-- Numbers and texts are read from a line with more blanks as they are without them. -/
theorem ArgumentType.IsStandard.read_extend {type : ArgumentType} (htype : type.IsStandard)
    {tail : List Char} (htail : ∀ c ∈ tail, isBlank c = true) (commands : List String)
    (context : Context) :
    type.read commands (context.extend tail) = (type.read commands context).extend tail := by
  rw [htype.read_eq, htype.read_eq]
  by_cases hnone : dropBlanks context.cursor.ahead = []
  · have hnone' : dropBlanks (context.extend tail).cursor.ahead = [] :=
      dropBlanks_append_tail_of_eq_nil htail hnone
    rw [hnone, hnone', extract_nil]
    rfl
  · obtain ⟨hleading, hdrop⟩ : leadingBlanks (context.extend tail).cursor.ahead =
        leadingBlanks context.cursor.ahead ∧
        dropBlanks (context.extend tail).cursor.ahead = dropBlanks context.cursor.ahead ++ tail :=
      dropBlanks_append_tail hnone tail
    rw [hdrop, extract_append_tail htail hnone]
    cases type.extract commands (dropBlanks context.cursor.ahead) with
    | error reports => rfl
    | ok extract =>
        simp only [Except.map, Reading.ofExtract, hleading]
        rfl

/-- The place in a line and the same place in the line with more text at its end. -/
def Cursor.IsExtended (tail : List Char) (cursor other : Cursor) : Prop :=
  other = cursor.extend tail

theorem Context.Matches.eq_extend {tail : List Char} {context state : Context}
    (h : context.Matches (Cursor.IsExtended tail) state) : state = context.extend tail := by
  obtain ⟨cursor, bindings⟩ := context
  obtain ⟨place, found⟩ := state
  exact congrArg₂ Context.mk h.cursor h.bindings_eq

namespace Node

variable {α : Type} {commands : List String} {node : Node α} {context next : Context}
  {tail : List Char}

/-! ## One node -/

variable (htail : ∀ c ∈ tail, isBlank c = true)

include htail

/-- A node is parsed on a line with more blanks as it is without them. -/
theorem enter?_extend (hmounted : node.IsMounted)
    (htypes : node.AllTypes ArgumentType.IsStandard) (context : Context) :
    node.enter? commands (context.extend tail) =
      (node.enter? commands context).map (Context.extend tail) := by
  cases hkind : node.kind with
  | root => simp [enter?, hkind]
  | literal token =>
      have hconsume := Cursor.consume?_extend htail (hmounted.isWord hkind) context.cursor
      simp only [enter?, hkind, Context.extend, hconsume, Option.map_map]
      rfl
  | argument name type =>
      have hread := (htypes.own hkind).read_extend htail commands context
      simp only [enter?, hkind, hread, Option.map_map]
      rfl

omit htail in
theorem closes_of_closes_extend (hcloses : node.closes (next.extend tail) = true) :
    node.closes next = true := by
  obtain ⟨token, hkind, hend⟩ := exists_literal_of_closes hcloses
  have hahead : next.cursor.ahead ++ tail = [] := List.isEmpty_iff.mp hend
  rw [closes, hkind]
  exact List.isEmpty_iff.mpr (List.append_eq_nil_iff.mp hahead).1

/-- A path that takes the longer line takes the shorter line, or ends earlier, at a literal
with which the shorter line ends. -/
theorem Accepts.of_extend {state : Context} {path : List Nat} {legs : List (Leg α)}
    (h : Accepts commands node state path legs) (hmounted : node.IsMounted)
    (htypes : node.AllTypes ArgumentType.IsStandard) (hstate : state = context.extend tail) :
    ∃ path legs, Accepts commands node context path legs := by
  induction h generalizing context with
  | @ends node state place henter hcanEnd =>
      rw [hstate, enter?_extend htail hmounted htypes] at henter
      obtain ⟨next, hown, rfl⟩ := Option.map_eq_some_iff.mp henter
      obtain ⟨hkind, hends⟩ := hcanEnd
      exact ⟨_, _, .ends hown ⟨hkind, hends.imp_left closes_of_closes_extend⟩⟩
  | @passes node child state place position path legs henter _ hchild _ ih =>
      rw [hstate, enter?_extend htail hmounted htypes] at henter
      obtain ⟨next, hown, rfl⟩ := Option.map_eq_some_iff.mp henter
      by_cases hcloses : node.closes next = true
      · exact ⟨_, _, .ends hown (canEnd_of_closes hcloses)⟩
      · have hmem := List.mem_of_getElem? hchild
        obtain ⟨path, legs, hpath⟩ :=
          ih (hmounted.of_mem_children hmem) (htypes.of_mem_children hmem) rfl
        exact ⟨_, _, .passes hown (Bool.eq_false_iff.mpr hcloses) hchild hpath⟩

omit htail in
/-- Where only blanks are ahead, no literal and no argument is parsed. -/
theorem barred_of_dropBlanks_eq_nil (hfit : node.IsFit)
    (htypes : node.AllTypes ArgumentType.IsStandard)
    (hnone : dropBlanks context.cursor.ahead = []) :
    node.enter? commands context = none ∧ node.rebuffed commands context = context := by
  have hkeep := htypes.mono fun _ htype => htype.keepsBindings
  refine ⟨?_, rebuffed_eq_self hkeep context⟩
  have hown := hfit.own
  cases hkind : node.kind with
  | root =>
      rw [hkind] at hown
      exact hown.elim
  | literal token =>
      rw [hkind] at hown
      have hconsume : context.cursor.consume? token = none := by
        rw [Cursor.consume?_eq_none_iff hown.1 hown.2, Cursor.nextWord, hnone]
        intro hempty
        exact hown.1 (String.toList_eq_nil_iff.mp hempty.symm)
      simp [enter?, hkind, hconsume]
  | argument name type =>
      have hread := (htypes.own hkind).read_eq commands context
      rw [hnone, ArgumentType.extract_nil] at hread
      simp [enter?, hkind, hread, Reading.ofExtract, Reading.refused]

/-! ## Walks in step -/

omit htail

/-- Every literal of the tree has an action. -/
def LiteralsAct (node : Node α) : Prop :=
  ∀ part ∈ node.nodes, part.literal?.isSome → part.action.isSome

/-- What is known of a tree that is walked on two lines. -/
structure IsSteady (node other : Node α) : Prop where
  eq : other = node
  mounted : node.IsMounted
  types : node.AllTypes ArgumentType.IsStandard
  act : node.LiteralsAct

theorem IsSteady.of_mem_children {other child : Node α} (h : node.IsSteady other)
    (hchild : child ∈ node.children) : child.IsSteady child where
  eq := rfl
  mounted := h.mounted.of_mem_children hchild
  types := h.types.of_mem_children hchild
  act part hpart := h.act part (mem_nodes_of_mem_child hchild hpart)

theorem lockstep_extend (htail : ∀ c ∈ tail, isBlank c = true) (commands : List String) :
    Lockstep commands (IsSteady (α := α)) (Cursor.IsExtended tail) (Cursor.IsExtended tail) where
  kind_eq hnodes := congrArg Node.kind hnodes.eq
  action_eq hnodes := congrArg Node.action hnodes.eq
  children := by
    rintro node _ hnodes
    obtain rfl := hnodes.eq
    exact List.forall₂_same.mpr fun child hchild => hnodes.of_mem_children hchild
  consume? := by
    rintro node other token cursor _ hnodes hkind rfl
    rw [Cursor.consume?_extend htail (hnodes.mounted.isWord hkind)]
    cases cursor.consume? token with
    | none => exact .none
    | some next => exact .some rfl
  read := by
    intro node other name type context state hnodes hkind hstates
    rw [hstates.eq_extend, (hnodes.types.own hkind).read_extend htail]
    exact ⟨rfl, rfl, rfl, fun _ => rfl⟩
  weaken hplaces := hplaces
  stays := by
    rintro cursor _ rfl hopen
    have hahead : cursor.ahead ≠ [] := by simpa [Cursor.atEnd] using hopen
    simp [Cursor.atEnd, Cursor.extend, hahead]

/-- The visit is one of a child of the node at the address, where only blanks are ahead. -/
def IsProbe (address : List Nat) (visit : Visit α) : Prop :=
  (∃ position, visit.address = address ++ [position]) ∧
    dropBlanks visit.context.cursor.ahead = []

/-- A literal with which a line ends takes the line with more blanks by its own action.  On
the way it tries its children. -/
theorem follows_of_closes_extend (htail : ∀ c ∈ tail, isBlank c = true)
    (hnode : node.IsSteady node) (henter : node.enter? commands context = some next)
    (hcloses : node.closes next = true) :
    Walk.Follows IsSteady (Cursor.IsExtended tail) (Cursor.IsExtended tail) IsProbe
      (node.walk commands context) (node.walk commands (context.extend tail))
      (node.tour commands context) (node.tour commands (context.extend tail)) := by
  have hstep := lockstep_extend (α := α) htail commands
  have henter' : node.enter? commands (context.extend tail) = some (next.extend tail) := by
    rw [enter?_extend htail hnode.mounted hnode.types, henter, Option.map_some]
  by_cases hcloses' : node.closes (next.extend tail) = true
  · exact hstep.follows_of_closes hnode ⟨rfl, rfl⟩ henter hcloses henter' hcloses'
  · have hopen : node.closes (next.extend tail) = false := Bool.eq_false_iff.mpr hcloses'
    obtain ⟨token, hkind, hend⟩ := exists_literal_of_closes hcloses
    have hact := hnode.act node node.self_mem_nodes (by simp [literal?, hkind, NodeKind.literal?])
    obtain ⟨action, haction⟩ := Option.isSome_iff_exists.mp hact
    have hfallback : node.fallback? = some action := by simp [fallback?, hkind, haction]
    have hnone : dropBlanks (next.extend tail).cursor.ahead = [] := by
      have hahead : next.cursor.ahead = [] := List.isEmpty_iff.mp hend
      simpa [Context.extend, Cursor.extend, hahead, dropBlanks] using htail
    have hbarred : ∀ child ∈ node.children,
        child.enter? commands (next.extend tail) = none ∧
          child.rebuffed commands (next.extend tail) = next.extend tail :=
      fun child hchild => barred_of_dropBlanks_eq_nil (hnode.mounted.isFit_of_mem_children hchild)
        (hnode.types.of_mem_children hchild) hnone
    obtain ⟨hrefused, hlast, hstop, hprobes⟩ := walkAny_of_barred hbarred 0
    have hbindings : (walkAny commands node.children (next.extend tail)).context.bindings =
        next.bindings := by
      rw [hlast]
      rfl
    have hcursor : (walkAny commands node.children (next.extend tail)).context.cursor =
        next.cursor.extend tail := congrArg Context.cursor hlast
    have hwalk := walk_of_enter?_eq_some henter'
    rw [if_neg hcloses', hfallback, Walk.settle_some_of_refused hrefused] at hwalk
    rw [walk_of_enter?_eq_some henter, if_pos hcloses, hwalk, tour_of_closes henter hcloses,
      tour_of_not_closes henter' hopen, hstop, hfallback]
    exact
      { verdict_eq := congrArg Verdict.accepted haction.symm
        bindings_eq := hbindings
        cursor := fun _ => hcursor
        stop?_eq := rfl
        visits := by
          refine ⟨[⟨[], node, context.extend tail⟩], _, rfl, .cons ⟨rfl, hnode, rfl, rfl⟩ .nil, ?_⟩
          intro visit hvisit
          obtain ⟨hcontext, hposition⟩ := hprobes visit hvisit
          exact ⟨[], rfl, hposition, by rw [hcontext, hnone]⟩ }

/-- What is reported on a probe is that an argument is missing that is not optional. -/
theorem IsProbe.exists_of_mem_reports {address : List Nat} {visit : Visit α}
    (h : IsProbe address visit) (htypes : visit.node.AllTypes ArgumentType.IsStandard)
    {diagnostic : Diagnostic} (hmem : diagnostic ∈ visit.reports commands) :
    ∃ name type, visit.node.kind = .argument name type ∧ visit.node.optional = false ∧
      diagnostic = .missingArgument name := by
  cases hkind : visit.node.kind with
  | root => simp [Visit.reports, Visit.findings, Visit.omission, hkind] at hmem
  | literal token => simp [Visit.reports, Visit.findings, Visit.omission, hkind] at hmem
  | argument name type =>
      have hread := (htypes.own hkind).read_eq commands visit.context
      rw [h.2, ArgumentType.extract_nil] at hread
      cases hoptional : visit.node.optional with
      | true =>
          simp [Visit.reports, Visit.findings, Visit.omission, hkind, hread, hoptional,
            Reading.ofExtract, Reading.refused] at hmem
      | false =>
          have hmissing : diagnostic = .missingArgument name := by
            simpa [Visit.reports, Visit.findings, Visit.omission, hkind, hread, hoptional,
              Reading.ofExtract, Reading.refused] using hmem
          exact ⟨name, type, rfl, rfl, hmissing⟩

/-! ## Lines with more blanks -/

/-- With more blanks at its end a line is taken only if it is taken without them.  If every
literal has an action, it is taken if it is taken without them, and then the action of the
same node fires, at the same place and with the same bindings.  What is reported in addition
is that arguments are missing: some of those below that node that are not optional. -/
theorem trailing_blanks_keep_walk (commands : List String) {node : Node α}
    (hmounted : node.IsMounted) (htypes : node.AllTypes ArgumentType.IsStandard)
    {tail : List Char} (htail : ∀ c ∈ tail, isBlank c = true) (context : Context) :
    let walk := node.walk commands context
    let longer := node.walk commands (context.extend tail)
    let stop? := (node.tour commands context).stop?
    (longer.verdict.isAccepted = true → walk.verdict.isAccepted = true) ∧
    (node.LiteralsAct →
      longer.verdict = walk.verdict ∧ longer.context = walk.context.extend tail ∧
      longer.context.cursor.offset = walk.context.cursor.offset ∧
      (node.tour commands (context.extend tail)).stop? = stop? ∧
      (∀ address ∈ stop?, ∃ part, node.part? address = some part ∧
        walk.fired = (part.action.map fun action => (action, walk.context)).toList ∧
        longer.fired = (part.action.map fun action => (action, longer.context)).toList) ∧
      ∃ late, longer.diagnostics = walk.diagnostics ++ late ∧
        ∀ diagnostic ∈ late, ∃ address ∈ stop?, ∃ position part name type,
          node.part? (address ++ [position]) = some part ∧ part.kind = .argument name type ∧
          part.optional = false ∧ diagnostic = .missingArgument name) := by
  intro walk longer stop?
  have hkeep := htypes.mono fun _ htype => htype.keepsBindings
  constructor
  · rw [isAccepted_iff_exists_accepts commands hkeep, isAccepted_iff_exists_accepts commands hkeep]
    rintro ⟨path, legs, hpath⟩
    exact hpath.of_extend htail hmounted htypes rfl
  · intro hact
    have hsteady : node.IsSteady node := ⟨rfl, hmounted, htypes, hact⟩
    have hstates : context.Matches (Cursor.IsExtended tail) (context.extend tail) := ⟨rfl, rfl⟩
    have hstep := lockstep_extend (α := α) htail commands
    have hfollows : Walk.Follows IsSteady (Cursor.IsExtended tail) (Cursor.IsExtended tail)
        IsProbe walk longer (node.tour commands context)
        (node.tour commands (context.extend tail)) := by
      apply hstep.follows _ _ hsteady hstates
      · rintro address visit position ⟨⟨last, haddress⟩, hnone⟩
        exact ⟨⟨last, congrArg (position :: ·) haddress⟩, hnone⟩
      · intro node other context state next hnodes hstates henter hcloses
        obtain rfl := hnodes.eq
        rw [hstates.eq_extend]
        exact follows_of_closes_extend htail hnodes henter hcloses
    have hcontext : longer.context = walk.context.extend tail :=
      Context.Matches.eq_extend ⟨hfollows.bindings_eq, hfollows.cursor_of_start hstates.cursor⟩
    obtain ⟨front, late, hvisits, hmatch, hlate⟩ := hfollows.visits
    refine ⟨hfollows.verdict_eq, hcontext, by simp [hcontext, Context.extend], hfollows.stop?_eq,
      fired_of_stop?_eq hfollows.stop?_eq, late.flatMap (Visit.reports commands), ?_, ?_⟩
    · rw [diagnostics_walk, diagnostics_walk, hvisits, List.flatMap_append,
        flatMap_eq_of_forall₂ hmatch fun hboth => hstep.reports_eq hboth hboth.node.eq]
    · intro diagnostic hmem
      obtain ⟨visit, hvisit, hreport⟩ := List.mem_flatMap.mp hmem
      obtain ⟨address, hstop, hprobe⟩ := hlate visit hvisit
      have hpart : node.part? visit.address = some visit.node :=
        part?_of_mem_visits (hvisits ▸ List.mem_append_right front hvisit)
      obtain ⟨name, type, hkind, hoptional, rfl⟩ := hprobe.exists_of_mem_reports
        (htypes.of_mem_nodes (mem_nodes_of_part? hpart)) hreport
      obtain ⟨position, haddress⟩ := hprobe.1
      exact ⟨address, hstop, position, visit.node, name, type, haddress ▸ hpart, hkind,
        hoptional, rfl⟩

/-- A root above a word with a number and another word below it, both of which may follow. -/
def strollTree : Node Nat :=
  .root
    [{ kind := .literal "go"
       children :=
        [{ kind := .argument "steps" (.integer {}), action := some 1 },
          { kind := .argument "place" (.text {}), optional := true, action := some 2 }]
       action := some 3 }]

/-- The blanks after the word have it ask for the number, and not for the other word, before
it takes the line as it does without them. -/
theorem trailing_blanks_keep_walk_after_word :
    let tail := "\u3000 ".toList
    strollTree.IsMounted ∧ strollTree.AllTypes ArgumentType.IsStandard ∧
    (∀ c ∈ tail, isBlank c = true) ∧ strollTree.LiteralsAct ∧
    (strollTree.walk [] ((Context.start " go").extend tail)).verdict =
      (strollTree.walk [] (.start " go")).verdict ∧
    (strollTree.walk [] (.start " go")).fired.map Prod.fst = [3] ∧
    (strollTree.walk [] ((Context.start " go").extend tail)).context.cursor.offset =
      (strollTree.walk [] (.start " go")).context.cursor.offset ∧
    (strollTree.walk [] (.start " go")).diagnostics = [] ∧
    (strollTree.walk [] ((Context.start " go").extend tail)).diagnostics =
      [.missingArgument "steps"] := by
  intro tail
  have hmounted : strollTree.IsMounted := by
    refine .inr ⟨rfl, ?_⟩
    decide +kernel
  have htypes : strollTree.AllTypes ArgumentType.IsStandard := by
    simp [AllTypes, strollTree, root, nodes, nodesOfAll, ArgumentType.IsStandard]
  have htail : ∀ c ∈ tail, isBlank c = true := List.all_eq_true.mp (by decide)
  have hact : strollTree.LiteralsAct := by
    simp [LiteralsAct, strollTree, root, nodes, nodesOfAll, literal?, NodeKind.literal?]
  obtain ⟨-, hkept⟩ := trailing_blanks_keep_walk [] hmounted htypes htail (.start " go")
  obtain ⟨hverdict, -, hoffset, -⟩ := hkept hact
  refine ⟨hmounted, htypes, htail, hact, hverdict, ?_, hoffset, ?_, ?_⟩ <;> decide +kernel

end Node

end CommandTree
