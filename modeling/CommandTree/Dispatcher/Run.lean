import CommandTree.Dispatcher.Action

/-!
# Running lines

`Dispatcher.respond` dispatches a line: it walks the tree and lets the action fire.  The
effects may ask for further lines to be dispatched; `Dispatcher.run` does that too, up to a
given depth.
-/

namespace CommandTree

/-- What a dispatched line leads to. -/
structure Response where
  outcome : Outcome
  effects : List Effect

namespace Response

/-- The messages a line leads to by itself. -/
def messages (response : Response) : List Message :=
  response.effects.filterMap fun effect => effect.notice?.bind Notice.message?

end Response

namespace Dispatcher

/-- What an action has at hand when it fires. -/
def scene (dispatcher : Dispatcher Action) (context : Context) : Scene :=
  { context, commands := dispatcher.commands, help := dispatcher.help }

/-- The effects of a walk: those of what happened on the way, then those of the action that
fires. -/
def effectsOf (dispatcher : Dispatcher Action) (walk : Walk Action) : List Effect :=
  let fired := match walk.verdict.action? with
    | some action => action (dispatcher.scene walk.context)
    | none => []
  walk.events.flatMap Event.effects ++ fired

def respond (dispatcher : Dispatcher Action) (line : String) : Response :=
  match dispatcher.input? line with
  | none => { outcome := .ignored, effects := [] }
  | some input =>
    let walk := dispatcher.explore input
    let last := match walk.verdict with
      | .accepted _ => [Effect.record .debug ("dispatched " ++ Text.quoted input)]
      | .refused => Effect.report walk.context.cursor.offset (.notFound input)
    { outcome := walk.verdict.outcome, effects := dispatcher.effectsOf walk ++ last }

/-- What running a line produced. -/
structure Run where
  outcome : Outcome
  notices : List Notice
deriving DecidableEq, Repr

def Run.messages (run : Run) : List Message := run.notices.filterMap Notice.message?

/-- Carry out effects, where `nested` runs the lines they ask for. -/
def carryOut (nested : String → Option Run) : List Effect → Option (List Notice)
  | [] => some []
  | .notice n :: rest => (carryOut nested rest).map (n :: ·)
  | .dispatch line :: rest => do
    let run ← nested line
    let later ← carryOut nested rest
    return run.notices ++ .message ⟨.output, run.outcome.name⟩ :: later

/-- Run a response. -/
def Run.ofResponse (nested : String → Option Run) (response : Response) : Option Run :=
  (carryOut nested response.effects).map fun notices =>
    { outcome := response.outcome, notices }

/-- Run a line.  Lines may lead to further lines `depth` levels down; there is no run of a
line that goes deeper. -/
def run (dispatcher : Dispatcher Action) : (depth : Nat) → String → Option Run
  | 0, line => Run.ofResponse (fun _ => none) (dispatcher.respond line)
  | depth + 1, line => Run.ofResponse (dispatcher.run depth) (dispatcher.respond line)

/-- Carry out the effects of a walk of any tree. -/
def runWalk (dispatcher : Dispatcher Action) (depth : Nat) (walk : Walk Action) :
    Option (List Notice) :=
  carryOut (dispatcher.run depth) (dispatcher.effectsOf walk)

end Dispatcher

end CommandTree
