import CommandTree.Application
import CommandTree.Output.Sink

/-!
# Sessions

A session is a dispatcher that is set up and used step by step.  Each step has an answer
and produces notices; the sink of the session tells which of them are shown and which are
recorded.
-/

namespace CommandTree

/-- A dispatcher in use. -/
structure Session where
  dispatcher : Dispatcher Action
  sink : Sink := .buffer

namespace Session

/-- How deeply lines may be dispatched by actions that lines fire. -/
def depthLimit : Nat := 500

inductive Step where
  | register (node : Node Action)
  | registerApplication (config : Config)
  | dispatch (line : String)
  | commands
  | linePrefix
  | help (command : Option String)
  | rootHelp (indent : String)
  | find (name : String)
  | tree
  | send (message : Message)
  | setSink (sink : Sink)

inductive Answer where
  | done
  | registered (count : Nat)
  | fault (fault : RegistrationFault)
  | outcome (outcome : Outcome)
  /-- Actions dispatched lines too deeply. -/
  | tooDeep
  | texts (texts : List String)
  | text (text : String)
  | node (node : Option (Node Action))

structure Result where
  answer : Answer
  notices : List Notice := []
  session : Session

/-- Register nodes, the building of which left `records`. -/
def registerNodes (session : Session) (records : List Record) (nodes : List (Node Action)) :
    Result :=
  let registered := session.dispatcher.registerAll nodes
  let left := session.dispatcher.registrationRecords nodes
  { answer := match registered.2 with
      | some fault => .fault fault
      | none => .registered registered.1.registered.length
    notices := (records ++ left).map .record
    session := { session with dispatcher := registered.1 } }

def perform (session : Session) : Step → Result
  | .register node => session.registerNodes node.buildRecords [node]
  | .registerApplication config => session.registerNodes [] (Application.commands config)
  | .dispatch line =>
    match session.dispatcher.run depthLimit line with
    | some run => { answer := .outcome run.outcome, notices := run.notices, session }
    | none => { answer := .tooDeep, session }
  | .commands => { answer := .texts session.dispatcher.commands, session }
  | .linePrefix => { answer := .text session.dispatcher.linePrefix, session }
  | .help command => { answer := .text (session.dispatcher.help command), session }
  | .rootHelp indent => { answer := .text (session.dispatcher.root.help indent), session }
  | .find name => { answer := .node (session.dispatcher.find? name), session }
  | .tree => { answer := .node (some session.dispatcher.root), session }
  | .send message => { answer := .done, notices := [.message message], session }
  | .setSink sink => { answer := .done, session := { session with sink } }

end Session

end CommandTree
