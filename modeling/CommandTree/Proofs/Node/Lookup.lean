import CommandTree.Proofs.Argument.Token
import CommandTree.Proofs.Node.Fitness
import CommandTree.Proofs.Node.Refusals

/-!
# Commands that look something up

A literal that is not the word that comes next is passed over without a trace, so
among literals a line goes straight to the one it names.

The commands considered here consist of a word and a text, which may be left out.  One
action is for the case that a text is given and admitted, the other for all other
cases; a text that is not admitted is reported, and nothing else is.
-/

namespace CommandTree

namespace Node

variable {α : Type} {commands : List String} {context : Context} {token : String}

/-! ## Literals -/

/-- A literal that is not the word that comes next is passed over without a trace. -/
theorem walk_of_nextWord_ne {node : Node α} (hkind : node.kind = .literal token)
    (hfit : (NodeKind.literal token).IsFit) (hother : context.cursor.nextWord ≠ token.toList) :
    node.walk commands context = .refused [] context := by
  have hconsume : context.cursor.consume? token = none :=
    (Cursor.consume?_eq_none_iff hfit.1 hfit.2).mpr hother
  have henter : node.enter? commands context = none := by
    simp [enter?, hkind, hconsume]
  rw [walk_of_enter?_eq_none henter]
  simp [complaints, rebuffed, hkind]

/-- The node is a literal with another word than the one that comes next. -/
def IsOtherWord (cursor : Cursor) (node : Node α) : Prop :=
  node.IsFit ∧ ∃ token, node.kind = .literal token ∧ cursor.nextWord ≠ token.toList

theorem IsOtherWord.walk_eq {node : Node α} (h : node.IsOtherWord context.cursor) :
    node.walk commands context = .refused [] context := by
  obtain ⟨hfit, token, hkind, hother⟩ := h
  have hown := hfit.own
  rw [hkind] at hown
  exact walk_of_nextWord_ne hkind hown hother

/-- Literals with other words are passed over. -/
theorem walkAny_of_isOtherWord {front : List (Node α)}
    (hfront : ∀ node ∈ front, node.IsOtherWord context.cursor) :
    walkAny commands front context = .refused [] context :=
  walkAny_of_passed fun node hnode => (hfront node hnode).walk_eq

theorem walkAny_append_of_isOtherWord {front : List (Node α)}
    (hfront : ∀ node ∈ front, node.IsOtherWord context.cursor) (rest : List (Node α)) :
    walkAny commands (front ++ rest) context = walkAny commands rest context := by
  have hpassed : walkAny commands front context = .refused [] context :=
    walkAny_of_isOtherWord hfront
  have hrefused : (walkAny commands front context).verdict = .refused := by
    rw [hpassed]
    rfl
  rw [walkAny_append_of_refused hrefused, hpassed]
  rfl

/-- A literal with which the line ends takes it, whatever is below. -/
theorem walk_of_atEnd (commands : List String) {node : Node α} (context : Context)
    {cursor : Cursor}
    (hkind : node.kind = .literal token) (hconsume : context.cursor.consume? token = some cursor)
    (hend : cursor.atEnd = true) :
    node.walk commands context =
      (Walk.accepted node.action (context.moveTo cursor)).after
        [.consumed token context.cursor.offset] := by
  have henter : node.enter? commands context = some (context.moveTo cursor) := by
    simp [enter?, hkind, hconsume]
  have hcloses : node.closes (context.moveTo cursor) = true := by
    rw [closes, hkind]
    exact hend
  rw [walk_of_enter?_eq_some henter, if_pos hcloses]
  simp [entryEvents, hkind]

/-- A literal with an action and nothing below it takes the line wherever its word
comes next. -/
theorem walk_of_children_eq_nil (commands : List String) (node : Node α) {action : α}
    {cursor : Cursor} (hkind : node.kind = .literal token) (hchildren : node.children = [])
    (haction : node.action = some action)
    (hconsume : context.cursor.consume? token = some cursor) :
    (node.walk commands context).verdict = .accepted (some action) ∧
      (node.walk commands context).diagnostics = [] := by
  have henter : node.enter? commands context = some (context.moveTo cursor) := by
    simp [enter?, hkind, hconsume]
  have hfallback : node.fallback? = some action := by simp [fallback?, hkind, haction]
  rw [walk_of_enter?_eq_some henter, hchildren, hfallback, haction]
  have hentry : (node.entryEvents commands context).filterMap Event.diagnostic? = [] := by
    simp [entryEvents, hkind, Event.diagnostic?]
  split <;> simp [Walk.diagnostics, Walk.accepted, Walk.settle, walkAny, Walk.refused, hentry]

end Node

/-! ## A word and a text -/

/-- A command that consists of a word and a text, which may be left out: the action for
a text that is given and admitted, and the action for all other cases. -/
structure Lookup (α : Type) where
  token : String
  description : String
  argument : String
  argumentDescription : String
  type : TextType
  one : α
  all : α

namespace Lookup

variable {α : Type} {context : Context} {cursor : Cursor}

/-- The node of the text. -/
def textNode (lookup : Lookup α) : Node α :=
  { kind := .argument lookup.argument (.text lookup.type)
    description := lookup.argumentDescription
    optional := true
    action := some lookup.one }

/-- The node of the command. -/
def node (lookup : Lookup α) : Node α :=
  { kind := .literal lookup.token
    description := lookup.description
    children := [lookup.textNode]
    action := some lookup.all }

variable (lookup : Lookup α) (commands : List String)

theorem walk_textNode_of_value?_eq_none
    (hvalue : (lookup.type.read commands context).value? = none) :
    let walk := lookup.textNode.walk commands context
    walk.verdict = .refused ∧
      walk.diagnostics = (lookup.type.read commands context).reports := by
  have henter : lookup.textNode.enter? commands context = none := by
    simp [Node.enter?, textNode, ArgumentType.read, hvalue]
  rw [Node.walk_of_enter?_eq_none henter]
  refine ⟨rfl, ?_⟩
  simp [Walk.diagnostics, Walk.refused, Node.complaints, textNode, ArgumentType.read,
    List.filterMap_map, Function.comp_def, Event.diagnostic?]

theorem walk_textNode_of_value?_eq_some {value : Value}
    (hvalue : (lookup.type.read commands context).value? = some value) :
    let walk := lookup.textNode.walk commands context
    walk.verdict = .accepted (some lookup.one) ∧ walk.diagnostics = [] ∧
      walk.context.bindings[lookup.argument]? = some value := by
  have henter : lookup.textNode.enter? commands context =
      some ((lookup.type.read commands context).context.bind lookup.argument value) := by
    simp [Node.enter?, textNode, ArgumentType.read, hvalue]
  have hsilent : (lookup.type.read commands context).reports = [] :=
    (lookup.type.orderly_read commands context).reports_eq_nil hvalue
  rw [Node.walk_of_enter?_eq_some henter]
  refine ⟨rfl, ?_, ?_⟩
  · simp [Walk.diagnostics, textNode, Node.closes, Node.fallback?, Node.entryEvents,
      ArgumentType.read, hvalue, hsilent, Node.walkAny, Walk.refused, Event.diagnostic?]
  · simp [textNode, Node.closes, Node.fallback?, Node.walkAny, Walk.refused, Walk.settle,
      Context.bind, Bindings.bind]

variable {lookup} (hconsume : context.cursor.consume? lookup.token = some cursor)

include hconsume

theorem walk_node_of_atEnd (hend : cursor.atEnd = true) :
    let walk := lookup.node.walk commands context
    walk.verdict = .accepted (some lookup.all) ∧ walk.diagnostics = [] := by
  rw [Node.walk_of_atEnd commands context rfl hconsume hend]
  exact ⟨rfl, rfl⟩

/-- Before the end of the line a lookup is left to its text, and what the text leaves
is taken by the action for all. -/
theorem walk_node_of_not_atEnd (hend : cursor.atEnd = false) :
    let walk := lookup.node.walk commands context
    let below := lookup.textNode.walk commands (context.moveTo cursor)
    walk.diagnostics = below.diagnostics ∧
      (below.verdict = .refused → walk.verdict = .accepted (some lookup.all)) ∧
      ∀ given, below.verdict = .accepted given →
        walk.verdict = .accepted given ∧ walk.context = below.context := by
  intro walk below
  have hwalk : walk = ((Node.walkAny commands [lookup.textNode]
      (context.moveTo cursor)).settle (some lookup.all)
        fun last => last.moveTo context.cursor).after
          [.consumed lookup.token context.cursor.offset] := by
    simp [walk, node, Node.walk, hconsume, hend]
  cases hbelow : below.verdict with
  | refused =>
      rw [Node.walkAny_cons_of_refused hbelow] at hwalk
      refine ⟨?_, fun _ => ?_, by simp⟩
      · simp [hwalk, below, Walk.diagnostics, Node.walkAny, Walk.refused,
          List.filterMap_cons, Event.diagnostic?]
      · simp [hwalk, Node.walkAny, Walk.refused, Walk.settle]
  | accepted given =>
      rw [Node.walkAny_cons_of_accepted hbelow, Walk.settle_of_accepted hbelow] at hwalk
      refine ⟨?_, by simp, ?_⟩
      · simp [hwalk, below, Walk.diagnostics, List.filterMap_cons, Event.diagnostic?]
      · intro given' hgiven
        rw [hwalk]
        exact ⟨hbelow.trans hgiven, rfl⟩

/-- A lookup takes the line.  It reports why the text that comes next is refused, if
it is, and fires the action for one exactly if there is a text and it is admitted. -/
theorem walk_node :
    let walk := lookup.node.walk commands context
    let admitted? :=
      cursor.nextText?.filter fun text => (lookup.type.check commands text).isNone
    walk.diagnostics = (cursor.nextText?.bind (lookup.type.check commands)).toList ∧
      walk.verdict =
        .accepted (some (if admitted?.isSome then lookup.one else lookup.all)) ∧
      ∀ text, admitted? = some text →
        walk.context.bindings[lookup.argument]? = some (.text text) := by
  cases hend : cursor.atEnd with
  | true =>
      obtain ⟨hverdict, hdiagnostics⟩ := walk_node_of_atEnd commands hconsume hend
      have hnone := Cursor.nextText?_of_atEnd hend
      simp [hverdict, hdiagnostics, hnone]
  | false =>
      obtain ⟨hdiagnostics, hrefused, haccepted⟩ :=
        walk_node_of_not_atEnd commands hconsume hend
      let inside := context.moveTo cursor
      cases htext : cursor.nextText? with
      | none =>
          have hread : lookup.type.read commands inside = .refused inside [] :=
            TextType.read_of_nextText?_eq_none htext
          obtain ⟨hbelow, hreports⟩ :=
            walk_textNode_of_value?_eq_none lookup commands (congrArg Reading.value? hread)
          rw [hread] at hreports
          simp [hdiagnostics, hrefused hbelow, hreports, inside, Reading.refused]
      | some text =>
          cases hcheck : lookup.type.check commands text with
          | some diagnostic =>
              have hread : lookup.type.read commands inside =
                  .refused inside [diagnostic] :=
                TextType.read_of_check_eq_some htext hcheck
              obtain ⟨hbelow, hreports⟩ :=
                walk_textNode_of_value?_eq_none lookup commands
                  (congrArg Reading.value? hread)
              rw [hread] at hreports
              simp [hdiagnostics, hrefused hbelow, hreports, inside, hcheck,
                Reading.refused]
          | none =>
              obtain ⟨next, hread⟩ : ∃ next, lookup.type.read commands inside =
                  .accepted inside (.text text) next :=
                TextType.read_of_check_eq_none htext hcheck
              obtain ⟨hbelow, hreports, hbound⟩ :=
                walk_textNode_of_value?_eq_some lookup commands
                  (congrArg Reading.value? hread)
              obtain ⟨hverdict, hcontext⟩ := haccepted _ hbelow
              simp [hdiagnostics, hverdict, hcontext, hreports, hbound, inside, hcheck]

end Lookup

end CommandTree
