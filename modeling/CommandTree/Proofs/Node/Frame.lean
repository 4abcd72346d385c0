import CommandTree.Proofs.Argument.Discipline
import CommandTree.Proofs.Node.Entry

/-!
# Backing out of a tree

A tree that does not take the line leaves no trace: the cursor is where it was,
whatever the argument types did before they refused, and so are the bindings,
provided that no argument type writes them by itself.

Both facts are instances of one induction, `Node.related_of_walk_refused`, over a
relation between the states before and after a refused walk.
-/

namespace CommandTree.Node

variable {α : Type}

/-! ## One node -/

@[simp] theorem cursor_rebuffed (commands : List String) (node : Node α)
    (context : Context) :
    (node.rebuffed commands context).cursor = context.cursor := by
  unfold rebuffed
  split <;> rfl

/-- Backing out of a node that was entered returns the cursor to where it was. -/
theorem cursor_backOut {commands : List String} {node : Node α}
    {context next last : Context}
    (henter : node.enter? commands context = some next)
    (hlast : last.cursor = next.cursor) :
    (node.backOut commands context last).cursor = context.cursor := by
  cases hkind : node.kind with
  | root =>
      obtain rfl := eq_of_enter?_root hkind henter
      simpa [backOut, hkind] using hlast
  | literal token => simp [backOut, hkind, Context.moveTo]
  | argument name type => simp [backOut, hkind]

theorem rebuffed_eq_self {commands : List String} {node : Node α}
    (hkeep : node.AllTypes ArgumentType.KeepsBindings) (context : Context) :
    node.rebuffed commands context = context := by
  cases hkind : node.kind with
  | root => simp [rebuffed, hkind]
  | literal token => simp [rebuffed, hkind]
  | argument name type =>
      have hbindings := hkeep.own hkind commands context
      simp [rebuffed, hkind, Context.moveTo, hbindings]

/-- Backing out of a node at once undoes its entry. -/
theorem backOut_eq_self {commands : List String} {node : Node α}
    (hkeep : node.AllTypes ArgumentType.KeepsBindings) {context next : Context}
    (henter : node.enter? commands context = some next) :
    node.backOut commands context next = context := by
  cases hkind : node.kind with
  | root =>
      obtain rfl := eq_of_enter?_root hkind henter
      simp [backOut, hkind]
  | literal token =>
      obtain ⟨cursor, -, rfl⟩ := exists_cursor_of_enter?_literal hkind henter
      simp [backOut, hkind, Context.moveTo]
  | argument name type =>
      obtain ⟨value, -, rfl⟩ := exists_value_of_enter?_argument hkind henter
      have hbindings := hkeep.own hkind commands context
      simp [backOut, hkind, Context.bind, Bindings.restore_bind, hbindings]

/-! ## Whole trees -/

section Relation

variable {R : Context → Context → Prop} {commands : List String}

theorem related_of_walkAny_refused (hrefl : ∀ context, R context context)
    (htrans : ∀ {first second third}, R first second → R second third →
      R first third)
    {children : List (Node α)}
    (hchildren : ∀ child ∈ children, ∀ context,
      (child.walk commands context).verdict = .refused →
        R context (child.walk commands context).context)
    {context : Context}
    (h : (walkAny commands children context).verdict = .refused) :
    R context (walkAny commands children context).context := by
  induction children generalizing context with
  | nil => exact hrefl context
  | cons child rest ih =>
      obtain ⟨hchild, hrest⟩ := refused_of_walkAny_cons h
      rw [walkAny_cons_of_refused hchild]
      have hfirst := hchildren child List.mem_cons_self context hchild
      have hlater := ih (fun other hother =>
        hchildren other (List.mem_cons_of_mem child hother)) hrest
      exact htrans hfirst hlater

/-- A reflexive and transitive relation that holds between the states before and
after each node that is refused, provided it holds below the node, holds between
the states before and after each refused walk. -/
theorem related_of_walk_refused {P : ArgumentType → Prop}
    (hrefl : ∀ context, R context context)
    (htrans : ∀ {first second third}, R first second → R second third →
      R first third)
    (hrebuffed : ∀ node : Node α, node.AllTypes P → ∀ context,
      R context (node.rebuffed commands context))
    (hbackOut : ∀ node : Node α, node.AllTypes P → ∀ {context next last},
      node.enter? commands context = some next → R next last →
        R context (node.backOut commands context last))
    {node : Node α} (htypes : node.AllTypes P) {context : Context}
    (h : (node.walk commands context).verdict = .refused) :
    R context (node.walk commands context).context := by
  induction node using treeInduction generalizing context with
  | step node ih =>
      cases node.course commands context with
      | barred henter hwalk =>
          rw [hwalk]
          exact hrebuffed node htypes context
      | backedOut next henter hopen hbelow hfallback hwalk =>
          rw [hwalk]
          apply hbackOut node htypes henter
          refine related_of_walkAny_refused hrefl htrans ?_ hbelow
          intro child hchild context hrefused
          exact ih child hchild (htypes.of_mem_children hchild) hrefused
      | ended next henter hcloses hwalk => simp [hwalk, Walk.accepted] at h
      | handedOn next given henter hopen hbelow hwalk => simp [hwalk, hbelow] at h
      | fellBack next action henter hopen hbelow hfallback hwalk =>
          simp [hwalk] at h

end Relation

variable {commands : List String}

/-- A tree that does not take the line leaves the cursor where it was. -/
theorem cursor_of_walk_refused {node : Node α} {context : Context}
    (h : (node.walk commands context).verdict = .refused) :
    (node.walk commands context).context.cursor = context.cursor := by
  refine related_of_walk_refused (P := fun _ => True)
    (R := fun before after => after.cursor = before.cursor)
    (fun _ => rfl) (fun hfirst hlater => hlater.trans hfirst)
    (fun node _ context => node.cursor_rebuffed commands context)
    (fun node _ {_ _ _} henter hlast => cursor_backOut henter hlast) ?_ h
  exact fun _ _ _ _ _ => trivial

theorem cursor_of_walkAny_refused {children : List (Node α)} {context : Context}
    (h : (walkAny commands children context).verdict = .refused) :
    (walkAny commands children context).context.cursor = context.cursor := by
  refine related_of_walkAny_refused
    (R := fun before after => after.cursor = before.cursor) (fun _ => rfl)
    (fun hfirst hlater => hlater.trans hfirst) ?_ h
  intro child _ context hrefused
  exact cursor_of_walk_refused hrefused

/-- A tree whose types keep to themselves leaves the whole state as it was. -/
theorem context_of_walk_refused {node : Node α}
    (hkeep : node.AllTypes ArgumentType.KeepsBindings) {context : Context}
    (h : (node.walk commands context).verdict = .refused) :
    (node.walk commands context).context = context := by
  refine related_of_walk_refused (P := ArgumentType.KeepsBindings)
    (R := fun before after => after = before)
    (fun _ => rfl) (fun hfirst hlater => hlater.trans hfirst)
    (fun node hkeep context => rebuffed_eq_self hkeep context) ?_ hkeep h
  rintro node hkeep context next last henter rfl
  exact backOut_eq_self hkeep henter

/-! ## The siblings that are tried -/

/-- The walks of the trees that are tried one after the other: all up to the
first that takes the line. -/
def attempts (commands : List String) : List (Node α) → Context → List (Walk α)
  | [], _ => []
  | node :: rest, context =>
      let first := node.walk commands context
      match first.verdict with
      | .accepted _ => [first]
      | .refused => first :: attempts commands rest first.context

/-- What happens when several trees are walked is what happens in the attempts. -/
theorem events_walkAny (commands : List String) (trees : List (Node α))
    (context : Context) :
    (walkAny commands trees context).events =
      (attempts commands trees context).flatMap Walk.events := by
  induction trees generalizing context with
  | nil => simp [walkAny, attempts, Walk.refused]
  | cons tree rest ih =>
      cases hfirst : (tree.walk commands context).verdict with
      | accepted given =>
          rw [walkAny_cons_of_accepted hfirst]
          simp [attempts, hfirst]
      | refused =>
          rw [walkAny_cons_of_refused hfirst, Walk.events_after, ih]
          simp [attempts, hfirst]

/-- Each sibling that fails hands the cursor on as the first one found it. -/
theorem cursor_of_mem_attempts {trees : List (Node α)} {context : Context}
    {attempt : Walk α} (hmem : attempt ∈ attempts commands trees context)
    (hrefused : attempt.verdict = .refused) :
    attempt.context.cursor = context.cursor := by
  induction trees generalizing context with
  | nil => simp [attempts] at hmem
  | cons tree rest ih =>
      cases hfirst : (tree.walk commands context).verdict with
      | accepted given =>
          obtain rfl : attempt = tree.walk commands context := by
            simpa [attempts, hfirst] using hmem
          simp [hfirst] at hrefused
      | refused =>
          have hcursor := cursor_of_walk_refused hfirst
          have hcases : attempt = tree.walk commands context ∨
              attempt ∈ attempts commands rest
                (tree.walk commands context).context := by
            simpa [attempts, hfirst] using hmem
          rcases hcases with rfl | hlater
          · exact hcursor
          · exact (ih hlater).trans hcursor

/-! ## The frame -/

/-- A tree that does not take the line returns the cursor to where it was, and so
does each of the siblings tried at any place; if its argument types do not write
the bindings, these are the same map as before, too. -/
theorem refused_walk_restores_context (commands : List String) (node : Node α)
    (context : Context) :
    ((node.walk commands context).verdict.isAccepted = false →
      (node.walk commands context).context.cursor = context.cursor ∧
        (node.AllTypes ArgumentType.KeepsBindings →
          (node.walk commands context).context.bindings = context.bindings)) ∧
      ∀ attempt ∈ attempts commands node.children context,
        attempt.verdict.isAccepted = false →
          attempt.context.cursor = context.cursor := by
  constructor
  · intro hrefused
    have hverdict := Verdict.isAccepted_eq_false_iff.mp hrefused
    refine ⟨cursor_of_walk_refused hverdict, ?_⟩
    intro hkeep
    rw [context_of_walk_refused hkeep hverdict]
  · intro attempt hmem hrefused
    exact cursor_of_mem_attempts hmem (Verdict.isAccepted_eq_false_iff.mp hrefused)

/-- A tree that binds one name twice on the way to a word. -/
def rebindingTree : Node Unit :=
  { kind := .literal "set"
    children :=
      [{ kind := .argument "value" (.integer {})
         children :=
          [{ kind := .argument "value" (.text {})
             children := [{ kind := .literal "on" }] }] },
        { kind := .argument "value" .nothing
          children := [{ kind := .literal "off" }] }] }

/-- A line the tree does not take, where the name is bound already. -/
def rebindingContext : Context :=
  { cursor := .start "set 5 x y".toList
    bindings := (∅ : Bindings).bind "value" (.text "old") }

theorem refused_walk_restores_rebound_name :
    (rebindingTree.walk [] rebindingContext).verdict.isAccepted = false ∧
      rebindingTree.AllTypes ArgumentType.KeepsBindings ∧
      (rebindingTree.walk [] rebindingContext).context.cursor =
        rebindingContext.cursor ∧
      (rebindingTree.walk [] rebindingContext).context.bindings =
        rebindingContext.bindings := by
  have hrefused :
      (rebindingTree.walk [] rebindingContext).verdict.isAccepted = false := by
    decide +kernel
  have hkeep : rebindingTree.AllTypes ArgumentType.KeepsBindings := by
    simp [AllTypes, rebindingTree, nodes, nodesOfAll,
      ArgumentType.keepsBindings_integer, ArgumentType.keepsBindings_text,
      ArgumentType.keepsBindings_nothing]
  obtain ⟨hframe, -⟩ :=
    refused_walk_restores_context [] rebindingTree rebindingContext
  obtain ⟨hcursor, hbindings⟩ := hframe hrefused
  exact ⟨hrefused, hkeep, hcursor, hbindings hkeep⟩

end CommandTree.Node
