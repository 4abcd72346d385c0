import CommandTree.Dispatcher.Basic
import CommandTree.Json.Quoted

/-!
# Actions

An action computes from what is at hand when it fires — its *scene* — the effects it has:
messages, records, and lines to be dispatched in turn.  The actions that only show a part
of the scene are given by name; `Action.all` runs several in a row.
-/

namespace CommandTree

/-- What an action has at hand. -/
structure Scene where
  context : Context
  commands : List String
  help : Option String → String

/-- Something an action does. -/
inductive Effect where
  | notice (notice : Notice)
  /-- Dispatch a line and tell the outcome. -/
  | dispatch (line : String)
deriving DecidableEq, Repr

namespace Effect

/-- Send a text on a channel. -/
def send (channel : Channel) (text : String) : Effect :=
  .notice (.message ⟨channel, text⟩)

/-- Leave a record. -/
def record (level : Level) (text : String) : Effect :=
  .notice (.record ⟨level, text⟩)

/-- Report a diagnostic, at an offset of the line. -/
def report (offset : Nat) (diagnostic : Diagnostic) : List Effect :=
  [record .debug ("diagnostic at " ++ offset.repr ++ ": " ++ diagnostic.text),
    send .error diagnostic.text]

/-- The notice an effect produces by itself. -/
def notice? : Effect → Option Notice
  | notice n => some n
  | dispatch _ => none

end Effect

/-- The effects of what happens on a walk. -/
def Event.effects : Event → List Effect
  | consumed token offset =>
    [.record .trace
      ("literal " ++ Text.quoted token ++ " matched at " ++ offset.repr)]
  | bound name value =>
    [.record .trace ("argument " ++ Text.quoted name ++ " = " ++ value.tagged)]
  | reported diagnostic offset => Effect.report offset diagnostic

abbrev Action := Scene → List Effect

namespace Action

def none : Action := fun _ => []

def all (actions : List Action) : Action := fun scene => actions.flatMap (· scene)

def say (channel : Channel) (text : String) : Action := fun _ => [.send channel text]

/-- Send a text that depends on the scene, as a result. -/
def tell (text : Scene → String) : Action := fun scene => [.send .output (text scene)]

def missing : String := "-"

def showArgument (name : String) : Action :=
  tell fun scene => (scene.context.bindings[name]?.map Value.display).getD missing

def showText (name : String) : Action :=
  tell fun scene => (scene.context.bindings.text? name).getD missing

def showInteger (name : String) : Action :=
  tell fun scene => ((scene.context.bindings.integer? name).map Int.repr).getD missing

/-- A value as a JSON object with its kind for a key. -/
def valueJson : Value → String
  | .integer n => "\x7b\"int\":" ++ n.repr ++ "\x7d"
  | .text t => "\x7b\"str\":" ++ Json.quoted t ++ "\x7d"

/-- All arguments as a JSON object, in the order of their names. -/
def bindingsJson (bindings : Bindings) : String :=
  let members := bindings.toList.map fun entry =>
    Json.quoted entry.1 ++ ":" ++ valueJson entry.2
  "\x7b" ++ ",".intercalate members ++ "\x7d"

def showBindings : Action := tell fun scene => bindingsJson scene.context.bindings

/-- Show where the cursor stands: its offset, whether that is the end, what is ahead, and the
whole line. -/
def showCursor : Action := tell fun scene =>
  let cursor := scene.context.cursor
  "|".intercalate
    [cursor.offset.repr, if cursor.atEnd then "true" else "false",
      String.ofList cursor.ahead, String.ofList cursor.line]

def showCommands : Action := tell fun scene => "|".intercalate scene.commands

def showHelp : Action := tell fun scene => scene.help Option.none

/-- Show the help on the command an argument names; without that argument, on all. -/
def showHelpOn (name : String) : Action :=
  tell fun scene => scene.help (scene.context.bindings.text? name)

def dispatch (line : String) : Action := fun _ => [.dispatch line]

def report (diagnostic : Diagnostic) : Action := fun scene =>
  Effect.report scene.context.cursor.offset diagnostic

end Action

end CommandTree
