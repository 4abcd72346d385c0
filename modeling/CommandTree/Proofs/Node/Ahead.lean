import CommandTree.Proofs.Argument.Extract
import CommandTree.Proofs.Node.Lockstep

/-!
# What a walk depends on

With types of numbers and of texts, a walk depends on nothing but the bindings and the text
ahead without the blanks it begins with.  What is behind the cursor, and where the cursor
stands in the line, makes no difference, and neither does the number of blanks before a word
(`walk_depends_on_text_ahead`).
-/

namespace CommandTree

open Text

/-- The same text is ahead. -/
def Cursor.SameAhead (cursor other : Cursor) : Prop := other.ahead = cursor.ahead

/-- The same text is ahead, but for the blanks it begins with. -/
def Cursor.SameText (cursor other : Cursor) : Prop :=
  dropBlanks other.ahead = dropBlanks cursor.ahead

namespace Cursor

variable {cursor other : Cursor}

theorem SameAhead.sameText (h : cursor.SameAhead other) : cursor.SameText other :=
  congrArg dropBlanks h

theorem SameAhead.atEnd_eq (h : cursor.SameAhead other) : other.atEnd = cursor.atEnd :=
  congrArg List.isEmpty h

/-- After a word the same text is ahead in both lines. -/
theorem SameText.consume? (h : cursor.SameText other) (token : String) :
    Option.Rel SameAhead (cursor.consume? token) (other.consume? token) := by
  have htext : dropBlanks other.ahead = dropBlanks cursor.ahead := h
  rw [Cursor.consume?, Cursor.consume?, htext]
  split
  · exact .none
  · split
    · exact .some rfl
    · exact .none

end Cursor

/-- After a number or a text the same text is ahead in both lines. -/
theorem ArgumentType.IsStandard.read_sameText {type : ArgumentType} (htype : type.IsStandard)
    (commands : List String) {context state : Context}
    (hstates : context.Matches Cursor.SameText state) :
    (type.read commands context).Matches Cursor.SameAhead (type.read commands state) := by
  have htext : dropBlanks state.cursor.ahead = dropBlanks context.cursor.ahead := hstates.cursor
  rw [htype.read_eq, htype.read_eq, htext]
  cases type.extract commands (dropBlanks context.cursor.ahead) with
  | error reports =>
      refine ⟨rfl, rfl, hstates.bindings_eq, ?_⟩
      simp [Reading.ofExtract, Reading.refused]
  | ok extract => exact ⟨rfl, rfl, hstates.bindings_eq, fun _ => rfl⟩

namespace Node

variable {α : Type}

/-- Walks of one tree are in step on lines that go on with the same text. -/
theorem lockstep_sameText (commands : List String) :
    Lockstep commands
      (fun node other : Node α => other = node ∧ node.AllTypes ArgumentType.IsStandard)
      Cursor.SameText Cursor.SameAhead where
  kind_eq hnodes := congrArg Node.kind hnodes.1
  action_eq hnodes := congrArg Node.action hnodes.1
  children := by
    rintro node _ ⟨rfl, htypes⟩
    exact List.forall₂_same.mpr fun child hchild => ⟨rfl, htypes.of_mem_children hchild⟩
  consume? _ _ hplaces := hplaces.consume? _
  read hnodes hkind hstates := (hnodes.2.own hkind).read_sameText commands hstates
  weaken hplaces := hplaces.sameText
  stays hplaces hopen := hplaces.atEnd_eq.trans hopen

/-- Where the bindings are the same and the same text is ahead after any blanks, a tree takes
both lines or neither, reports the same and fires the action of the same node.  The bindings
at the end are the same, and so is the text that is left over. -/
theorem walk_depends_on_text_ahead (commands : List String) {node : Node α}
    (htypes : node.AllTypes ArgumentType.IsStandard) {context state : Context}
    (hbindings : state.bindings = context.bindings)
    (htext : dropBlanks state.cursor.ahead = dropBlanks context.cursor.ahead) :
    let walk := node.walk commands context
    let twin := node.walk commands state
    twin.verdict = walk.verdict ∧ twin.diagnostics = walk.diagnostics ∧
    twin.context.bindings = walk.context.bindings ∧
    (walk.verdict.isAccepted = true → twin.context.cursor.ahead = walk.context.cursor.ahead) ∧
    (node.tour commands state).stop? = (node.tour commands context).stop? ∧
    ∀ address ∈ (node.tour commands context).stop?, ∃ part,
      node.part? address = some part ∧
      walk.fired = (part.action.map fun action => (action, walk.context)).toList ∧
      twin.fired = (part.action.map fun action => (action, twin.context)).toList := by
  intro walk twin
  have hstep := lockstep_sameText (α := α) commands
  have hstates : context.Matches Cursor.SameText state := ⟨hbindings, htext⟩
  have hfollows := hstep.follows_of_atEnd (fun hplaces hend => hplaces.atEnd_eq.trans hend)
    ⟨rfl, htypes⟩ hstates
  refine ⟨hfollows.verdict_eq, ?_, hfollows.bindings_eq, hfollows.cursor, hfollows.stop?_eq,
    fired_of_stop?_eq hfollows.stop?_eq⟩
  rw [diagnostics_walk, diagnostics_walk]
  apply flatMap_eq_of_forall₂ (hfollows.forall₂_visits fun _ _ _ hlate => hlate)
  intro visit other hmatch
  exact hstep.reports_eq hmatch hmatch.node.1

/-- A word with a number or another word below it. -/
def routeTree : Node Nat :=
  { kind := .literal "go"
    children :=
      [{ kind := .argument "steps" (.integer { maximum := some 9 }), action := some 1 },
        { kind := .argument "place" (.text {}), action := some 2 }] }

/-- The start of a line. -/
def routeStart : Context := .start "go  far now"

/-- A place in another line, from where on there are more blanks and the same words. -/
def routeLater : Context := { cursor := ⟨"you may".toList, "\u3000 go  far now".toList⟩ }

/-- The words at the start of the one line are taken like those further on in the other. -/
theorem walk_depends_on_text_ahead_past_other_words :
    routeTree.AllTypes ArgumentType.IsStandard ∧
    routeLater.bindings = routeStart.bindings ∧
    dropBlanks routeLater.cursor.ahead = dropBlanks routeStart.cursor.ahead ∧
    (routeTree.walk [] routeLater).verdict = (routeTree.walk [] routeStart).verdict ∧
    (routeTree.walk [] routeLater).diagnostics = [.missingArgument "steps"] ∧
    (routeTree.walk [] routeStart).fired.map Prod.fst = [2] ∧
    (routeTree.walk [] routeLater).context.cursor.ahead = " now".toList := by
  have htypes : routeTree.AllTypes ArgumentType.IsStandard := by
    simp [AllTypes, routeTree, nodes, nodesOfAll, ArgumentType.IsStandard]
  have hbindings : routeLater.bindings = routeStart.bindings := rfl
  have htext : dropBlanks routeLater.cursor.ahead = dropBlanks routeStart.cursor.ahead := by
    decide +kernel
  have haccepted : (routeTree.walk [] routeStart).verdict.isAccepted = true := by decide +kernel
  have hreported : (routeTree.walk [] routeStart).diagnostics = [.missingArgument "steps"] := by
    decide +kernel
  have hahead : (routeTree.walk [] routeStart).context.cursor.ahead = " now".toList := by
    decide +kernel
  have hfired : (routeTree.walk [] routeStart).fired.map Prod.fst = [2] := by decide +kernel
  obtain ⟨hverdict, hdiagnostics, -, hleft, -⟩ :=
    walk_depends_on_text_ahead [] htypes hbindings htext
  exact ⟨htypes, hbindings, htext, hverdict, hdiagnostics.trans hreported, hfired,
    (hleft haccepted).trans hahead⟩

end Node

end CommandTree
