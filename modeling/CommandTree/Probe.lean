import CommandTree.Dispatcher.Run

/-!
# Probing a context

The state of matching can be looked at and changed step by step, outside of any walk.  A
step that would put the cursor inside a character is refused and changes nothing.
-/

namespace CommandTree.Probe

/-- A step on a context. -/
inductive Step where
  | seek (offset : Nat)
  | skipBlanks
  | blankWidth
  | ahead
  | atEnd
  | consume (word : String)
  | bind (name : String) (value : Value)
  | argument (name : String)
  | display (name : String)
  | text (name : String)
  | integer (name : String)
  | bindings
  | read (type : ArgumentType)
  | walk (tree : Node Action)
  | walkRegistered
  | report (diagnostic : Diagnostic)

inductive Answer where
  | done
  | misplaced
  /-- Actions dispatched lines too deeply. -/
  | tooDeep
  | count (count : Nat)
  | text (text : Option String)
  | flag (flag : Bool)
  | value (value : Option Value)
  | integer (number : Option Int)
  | bindings (bindings : Bindings)

structure Result where
  answer : Answer
  notices : List Notice := []
  context : Context

def noticesOf (effects : List Effect) : List Notice := effects.filterMap Effect.notice?

/-- Match a tree and let its action fire. -/
def walk (dispatcher : Dispatcher Action) (depth : Nat) (tree : Node Action)
    (context : Context) : Result :=
  let walk := tree.walk dispatcher.commands context
  match dispatcher.runWalk depth walk with
  | some notices =>
    { answer := .flag walk.verdict.isAccepted, notices, context := walk.context }
  | none => { answer := .tooDeep, context := walk.context }

/-- Carry out a step, where actions may dispatch lines to the given depth. -/
def perform (dispatcher : Dispatcher Action) (depth : Nat) (context : Context) :
    Step → Result
  | .seek offset =>
    match context.cursor.seek? offset with
    | some cursor => { answer := .done, context := context.moveTo cursor }
    | none => { answer := .misplaced, context }
  | .skipBlanks => { answer := .done, context := context.moveTo context.cursor.skipBlanks }
  | .blankWidth => { answer := .count context.cursor.blankWidth, context }
  | .ahead => { answer := .text (some (String.ofList context.cursor.ahead)), context }
  | .atEnd => { answer := .flag context.cursor.atEnd, context }
  | .consume word =>
    match context.cursor.consume? word with
    | some cursor => { answer := .flag true, context := context.moveTo cursor }
    | none => { answer := .flag false, context }
  | .bind name value =>
    { answer := .value context.bindings[name]?, context := context.bind name value }
  | .argument name => { answer := .value context.bindings[name]?, context }
  | .display name => { answer := .text (context.bindings[name]?.map Value.display), context }
  | .text name => { answer := .text (context.bindings.text? name), context }
  | .integer name => { answer := .integer (context.bindings.integer? name), context }
  | .bindings => { answer := .bindings context.bindings, context }
  | .read type =>
    let reading := type.read dispatcher.commands context
    let effects := reading.reports.flatMap (Effect.report context.cursor.offset)
    { answer := .value reading.value?, notices := noticesOf effects, context := reading.context }
  | .walk tree => walk dispatcher depth tree context
  | .walkRegistered => walk dispatcher depth dispatcher.root context
  | .report diagnostic =>
    { answer := .done
      notices := noticesOf (Effect.report context.cursor.offset diagnostic)
      context }

end CommandTree.Probe
