import CommandTree.Output.Message

/-!
# Sinks

A sink decides what becomes of the messages of a run: a buffering sink shows them as
they are, a logging sink turns each into a record.  Records go to the log in any case.
-/

namespace CommandTree

/-- What becomes of messages. -/
inductive Sink where
  | buffer
  | log
deriving DecidableEq, Repr

namespace Sink

/-- The messages of a run that are shown. -/
def shown : Sink → List Notice → List Message
  | .buffer, notices => notices.filterMap Notice.message?
  | .log, _ => []

/-- The record a notice leaves in the log. -/
def record? : Sink → Notice → Option Record
  | _, .record record => some record
  | .log, .message message => some message.toRecord
  | .buffer, .message _ => none

/-- The records of a run. -/
def recorded (sink : Sink) (notices : List Notice) : List Record :=
  notices.filterMap sink.record?

end Sink

end CommandTree
