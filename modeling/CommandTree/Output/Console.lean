import CommandTree.Output.Message

/-!
# The console

On a console each message is a line of text.  Warnings and diagnostics are announced by
a text of their own, and an empty message is not shown at all.
-/

namespace CommandTree

/-- How messages are announced on a console. -/
structure Console where
  warnLead : String
  errorLead : String
deriving DecidableEq, Repr

namespace Console

/-- What a message of a channel starts with. -/
def lead (console : Console) : Channel → String
  | .output => ""
  | .warn => console.warnLead
  | .error => console.errorLead

/-- The text a message puts on the console. -/
def line (console : Console) (message : Message) : String :=
  if message.text.isEmpty then ""
  else console.lead message.channel ++ message.text ++ "\n"

/-- The text that messages put on the console one after the other. -/
def lines (console : Console) (messages : List Message) : String :=
  String.join (messages.map console.line)

end Console

end CommandTree
