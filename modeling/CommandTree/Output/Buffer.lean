import CommandTree.Output.Message

/-!
# Buffers

A buffer keeps the messages sent to it, in the order of their arrival, until they are
taken out.  `Buffer.perform` runs one operation of its interface.
-/

namespace CommandTree

/-- The messages that have arrived and have not been taken out. -/
structure Buffer where
  /-- The messages, oldest first. -/
  lines : List Message := []
deriving DecidableEq, Repr

namespace Buffer

def empty : Buffer := {}

def send (buffer : Buffer) (message : Message) : Buffer :=
  ⟨buffer.lines ++ [message]⟩

/-- The texts that arrived on one channel. -/
def texts (buffer : Buffer) (channel : Channel) : List String :=
  (buffer.lines.filter fun message => message.channel = channel).map Message.text

def isEmpty (buffer : Buffer) : Bool := buffer.lines.isEmpty

/-- Take everything out. -/
def take (buffer : Buffer) : List Message × Buffer :=
  (buffer.lines, empty)

@[simp] theorem lines_empty : empty.lines = [] := rfl

@[simp] theorem lines_send (buffer : Buffer) (message : Message) :
    (buffer.send message).lines = buffer.lines ++ [message] := rfl

@[simp] theorem take_eq (buffer : Buffer) : buffer.take = (buffer.lines, empty) := rfl

/-- The interface of a buffer. -/
inductive Operation where
  | send (message : Message)
  | lines
  | take
  | texts (channel : Channel)
  | isEmpty
deriving DecidableEq, Repr

inductive Answer where
  | done
  | messages (messages : List Message)
  | texts (texts : List String)
  | flag (value : Bool)
deriving DecidableEq, Repr

def perform (buffer : Buffer) : Operation → Answer × Buffer
  | .send message => (.done, buffer.send message)
  | .lines => (.messages buffer.lines, buffer)
  | .take => (.messages buffer.take.1, buffer.take.2)
  | .texts channel => (.texts (buffer.texts channel), buffer)
  | .isEmpty => (.flag buffer.isEmpty, buffer)

/-- Run operations one after the other. -/
def performAll (buffer : Buffer) : List Operation → List Answer × Buffer
  | [] => ([], buffer)
  | operation :: later =>
    let first := buffer.perform operation
    let rest := first.2.performAll later
    (first.1 :: rest.1, rest.2)

end Buffer

end CommandTree
