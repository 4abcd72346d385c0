/-!
# Messages

What a shell tells its user are *messages*: texts on one of three channels.  What it
tells its maintainer are *records*: texts at one of five levels.  A run produces both,
interleaved, as a list of *notices*.
-/

namespace CommandTree

/-- Where a message goes. -/
inductive Channel where
  | output
  | warn
  | error
deriving DecidableEq, Repr

/-- A text for the user. -/
structure Message where
  channel : Channel
  text : String
deriving DecidableEq, Repr

/-- How much a record matters. -/
inductive Level where
  | error
  | warn
  | info
  | debug
  | trace
deriving DecidableEq, Repr

/-- A text for the log. -/
structure Record where
  level : Level
  text : String
deriving DecidableEq, Repr

/-- One thing that a run produced. -/
inductive Notice where
  | message (message : Message)
  | record (record : Record)
deriving DecidableEq, Repr

/-- The level at which a message of a channel is recorded when the log stands in for
the user. -/
def Channel.level : Channel → Level
  | .output => .info
  | .warn => .warn
  | .error => .error

/-- A message as a record. -/
def Message.toRecord (message : Message) : Record :=
  ⟨message.channel.level, message.text⟩

/-- The message of a notice. -/
def Notice.message? : Notice → Option Message
  | .message m => some m
  | .record _ => none

/-- The record of a notice. -/
def Notice.record? : Notice → Option Record
  | .message _ => none
  | .record r => some r

end CommandTree
