import CommandTree.Application
import CommandTree.Config.File
import CommandTree.Text.Lines

/-!
# The shell

The shell echoes each line behind its prompt, dispatches it, and shows the messages on its
console.  A line to start with may come from the configuration, all others from the
input.
-/

namespace CommandTree

/-- What a shell leaves behind. -/
structure Transcript where
  output : String
  completed : Bool
deriving DecidableEq, Repr

namespace Transcript

def exitCode (transcript : Transcript) : UInt32 := if transcript.completed then 0 else 1

/-- The transcript of a shell that stops without printing anything. -/
def failed : Transcript := { output := "", completed := false }

/-- The transcript of a shell that comes to its end without printing anything. -/
def finished : Transcript := { output := "", completed := true }

/-- A transcript with something printed before it. -/
def printedBefore (output : String) (transcript : Transcript) : Transcript :=
  { transcript with output := output ++ transcript.output }

end Transcript

namespace Shell

/-- What is printed for a line: the line behind the prompt, and the messages it leads to. -/
def segment (config : Config) (dispatcher : Dispatcher Action) (line : String) : String :=
  config.prompt ++ line ++ "\n" ++ config.console.lines (dispatcher.respond line).messages

/-- Give lines to a shell, up to the first that is no text. -/
def feed (config : Config) (dispatcher : Dispatcher Action) : List (List UInt8) → Transcript
  | [] => .finished
  | line :: later =>
    match Text.decode? line with
    | none => .failed
    | some text =>
      (feed config dispatcher later).printedBefore (segment config dispatcher text)

/-- What is printed for the line to start with, unless there is none or it is empty. -/
def startupSegment (config : Config) (dispatcher : Dispatcher Action) : String :=
  match config.startup with
  | none => ""
  | some line => if line.isEmpty then "" else segment config dispatcher line

/-- Run a shell on an input. -/
def run (config : Config) (input : List UInt8) : Transcript :=
  match Application.dispatcher config with
  | (_, some _) => .failed
  | (dispatcher, none) =>
    (feed config dispatcher (Text.lines input)).printedBefore (startupSegment config dispatcher)

/-- The configuration of a shell: that in the file given as an argument, or else that in the
file named by the environment, or else the default. -/
def configure (argument environment : Option File) : Except Fault Config :=
  match argument.or environment with
  | some file => Config.load file
  | none => .ok .default

/-- Set up a shell and run it on an input. -/
def start (argument environment : Option File) (input : List UInt8) : Transcript :=
  match configure argument environment with
  | .error _ => .failed
  | .ok config => run config input

end Shell

end CommandTree
