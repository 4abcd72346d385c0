import CommandTree.Proofs.Dispatcher.Diagnostics
import CommandTree.Proofs.Dispatcher.Growth
import CommandTree.Proofs.Session.Commands

/-!
# One more registration

A dispatcher that has been set up by registering nodes may get one more.  Lines that it
ignores are still ignored, and lines that it executes are still executed; an argument that has
to be a command may let more through, so that another action may fire.  Where nothing in the
older trees looks at the dispatcher, the answer to a line that is executed stays the same.
-/

namespace CommandTree

open Text

namespace Session

/-- A dispatcher on which nodes were registered has no argument types but theirs, whatever
came of each registration. -/
theorem allTypes_dispatcherAfter {P : ArgumentType → Prop} (linePrefix : String)
    {calls : List (Node Action)} (hcalls : ∀ node ∈ calls, node.AllTypes P) :
    (dispatcherAfter linePrefix calls).root.AllTypes P := by
  rw [Dispatcher.root, Node.allTypes_root_iff]
  intro child hchild
  exact hcalls child ((sublist_registered linePrefix calls).subset hchild)

/-- After nodes with numbers and texts for arguments were registered, whatever came of each,
one more node of any kind is.  A line that was ignored is ignored.  A line that was executed
is executed, and runs to its end if the lines do that its action asks for.  If no type wants
its text to be a command and every action is local, such a line fires the same action as
before, in the same state, and is answered in the same way. -/
theorem registration_keeps_lines (linePrefix : String) {calls : List (Node Action)}
    (hcalls : ∀ node ∈ calls, node.AllTypes ArgumentType.IsStandard) {node : Node Action}
    {next : Dispatcher Action}
    (hregister : (dispatcherAfter linePrefix calls).register node = .ok next) (line : String) :
    let dispatcher := dispatcherAfter linePrefix calls
    ((dispatcher.respond line).outcome = .ignored →
      (next.respond line).outcome = .ignored ∧
      ∀ depth, next.run depth line = some { outcome := .ignored, notices := [] }) ∧
    ((dispatcher.respond line).outcome = .executed →
      (next.respond line).outcome = .executed ∧
      (∀ depth, (∀ nested, .dispatch nested ∈ next.firedEffects line →
          ∃ run, next.run depth nested = some run) →
        ∃ run, next.run (depth + 1) line = some run ∧ run.outcome = .executed) ∧
      (dispatcher.root.AllTypes (fun type => ¬ type.UsesCommands) →
        (∀ part ∈ dispatcher.root.nodes, ∀ action ∈ part.action, action.IsLocal) →
        next.fired line = dispatcher.fired line ∧
        next.respond line = dispatcher.respond line ∧
        ∀ depth, ∃ run, dispatcher.run depth line = some run ∧
          next.run depth line = some run)) := by
  intro dispatcher
  obtain ⟨-, rfl⟩ := Dispatcher.register_eq_ok_iff.mp hregister
  have htypes : dispatcher.root.AllTypes ArgumentType.IsStandard :=
    allTypes_dispatcherAfter linePrefix hcalls
  cases hinput : dispatcher.input? line with
  | none =>
      have hinput' : (dispatcher.extend node).input? line = none := hinput
      rw [Dispatcher.respond_of_ignored hinput]
      refine ⟨fun _ => ⟨?_, Dispatcher.run_of_ignored hinput'⟩, by simp⟩
      rw [Dispatcher.respond_of_ignored hinput']
  | some input =>
      have hinput' : (dispatcher.extend node).input? line = some input := hinput
      cases hverdict : (dispatcher.explore input).verdict with
      | refused =>
          rw [Dispatcher.respond_of_refused hinput hverdict]
          exact ⟨by simp, by simp⟩
      | accepted given =>
          rw [Dispatcher.respond_of_accepted hinput hverdict]
          refine ⟨by simp, fun _ => ?_⟩
          have haccepted : ((dispatcher.extend node).explore input).verdict.isAccepted = true :=
            Dispatcher.isAccepted_explore_extend htypes (by rw [hverdict]; rfl)
          have houtcome : ((dispatcher.extend node).respond line).outcome = .executed := by
            cases hlater : ((dispatcher.extend node).explore input).verdict with
            | refused => simp [hlater, Verdict.isAccepted] at haccepted
            | accepted other => rw [Dispatcher.respond_of_accepted hinput' hlater]
          refine ⟨houtcome, ?_, ?_⟩
          · intro depth hnested
            obtain ⟨run, hrun, hsame⟩ := Dispatcher.exists_run_succ hnested
            exact ⟨run, hrun, hsame.trans houtcome⟩
          · intro hfree hlocal
            have hboth : dispatcher.root.AllTypes
                fun type => type.IsStandard ∧ ¬ type.UsesCommands :=
              fun part hpart name type hkind =>
                ⟨htypes part hpart name type hkind, hfree part hpart name type hkind⟩
            obtain ⟨hfired, hrespond⟩ :
                (dispatcher.extend node).fired line = dispatcher.fired line ∧
                (dispatcher.extend node).respond line = dispatcher.respond line :=
              Dispatcher.respond_extend_eq hlocal hboth hinput hverdict
            have hnotices : ∀ effect ∈ (dispatcher.respond line).effects,
                effect.notice?.isSome :=
              fun effect hmem => Dispatcher.isSome_notice?_of_mem_respond hlocal hmem
            refine ⟨hfired, hrespond.trans (Dispatcher.respond_of_accepted hinput hverdict), ?_⟩
            intro depth
            refine ⟨_, Dispatcher.run_of_notices hnotices depth, ?_⟩
            rw [Dispatcher.run_of_notices (hrespond ▸ hnotices), hrespond]

/-- A word below which there may be a command or another word. -/
def aboutNode : Node Action :=
  { kind := .literal "about"
    children :=
      [{ kind := .argument "command" (.text { rule := some .commands })
         action := some (.say .output "a command") },
        { kind := .argument "word" (.text {}), action := some (.say .output "a word") }] }

/-- A word below which there is a text, which is shown. -/
def echoNode : Node Action :=
  { kind := .literal "echo"
    children := [{ kind := .argument "text" (.text {}), action := some (.showText "text") }] }

/-- Another word. -/
def newsNode : Node Action :=
  { kind := .literal "news", action := some (.say .output "no news") }

/-- Once there is a command of that name, the line about it fires another action.  Without
types that use the commands, the line that shows the name is answered as before. -/
theorem registration_keeps_lines_about_new_word :
    let about := dispatcherAfter "/" [aboutNode]
    let echo := dispatcherAfter "/" [echoNode]
    (∀ node ∈ [aboutNode], node.AllTypes ArgumentType.IsStandard) ∧
    about.register newsNode = .ok (about.extend newsNode) ∧
    (about.respond "/about news").outcome = .executed ∧
    (about.respond "/about news").messages =
      [(Diagnostic.notInList "about").message, (Diagnostic.missingArgument "command").message,
        ⟨.output, "a word"⟩] ∧
    ((about.extend newsNode).respond "/about news").outcome = .executed ∧
    ((about.extend newsNode).respond "/about news").messages = [⟨.output, "a command"⟩] ∧
    (∀ node ∈ [echoNode], node.AllTypes ArgumentType.IsStandard) ∧
    echo.register newsNode = .ok (echo.extend newsNode) ∧
    (echo.respond "/echo news").outcome = .executed ∧
    echo.root.AllTypes (fun type => ¬ type.UsesCommands) ∧
    (∀ part ∈ echo.root.nodes, ∀ action ∈ part.action, action.IsLocal) ∧
    (echo.extend newsNode).respond "/echo news" = echo.respond "/echo news" ∧
    ((echo.extend newsNode).respond "news").outcome = .ignored := by
  intro about echo
  have habout : ∀ node ∈ [aboutNode], node.AllTypes ArgumentType.IsStandard := by
    simp [Node.AllTypes, aboutNode, Node.nodes, Node.nodesOfAll, ArgumentType.IsStandard]
  have hecho : ∀ node ∈ [echoNode], node.AllTypes ArgumentType.IsStandard := by
    simp [Node.AllTypes, echoNode, Node.nodes, Node.nodesOfAll, ArgumentType.IsStandard]
  have hregister : about.register newsNode = .ok (about.extend newsNode) :=
    Dispatcher.register_eq_ok_iff.mpr ⟨by decide +kernel, rfl⟩
  have hregister' : echo.register newsNode = .ok (echo.extend newsNode) :=
    Dispatcher.register_eq_ok_iff.mpr ⟨by decide +kernel, rfl⟩
  have hexecuted : (about.respond "/about news").outcome = .executed := by decide +kernel
  have hexecuted' : (echo.respond "/echo news").outcome = .executed := by decide +kernel
  have hignored : (echo.respond "news").outcome = .ignored := by decide +kernel
  have hfree : echo.root.AllTypes fun type => ¬ type.UsesCommands := by
    apply allTypes_dispatcherAfter
    simp [Node.AllTypes, echoNode, Node.nodes, Node.nodesOfAll, ArgumentType.UsesCommands]
  have hlocal : ∀ part ∈ echo.root.nodes, ∀ action ∈ part.action, action.IsLocal := by
    have hadmits : ({ linePrefix := "/" } : Dispatcher Action).Admits echoNode :=
      Dispatcher.fault?_eq_none_iff.mp (by decide +kernel)
    have hset : echo = ({ linePrefix := "/" } : Dispatcher Action).extend echoNode :=
      congrArg Session.dispatcher (perform_register_of_admits hadmits).2
    rw [hset]
    simpa [Dispatcher.extend, Dispatcher.root, Node.root, Node.nodes, Node.nodesOfAll, echoNode]
      using Action.isLocal_showText "text"
  obtain ⟨-, hkept⟩ := registration_keeps_lines "/" habout hregister "/about news"
  obtain ⟨hstill, -⟩ := hkept hexecuted
  obtain ⟨-, hkept'⟩ := registration_keeps_lines "/" hecho hregister' "/echo news"
  obtain ⟨-, -, hsame⟩ := hkept' hexecuted'
  obtain ⟨-, hrespond, -⟩ := hsame hfree hlocal
  obtain ⟨hquiet, -⟩ := registration_keeps_lines "/" hecho hregister' "news"
  obtain ⟨hnothing, -⟩ := hquiet hignored
  refine ⟨habout, hregister, hexecuted, ?_, hstill, ?_, hecho, hregister', hexecuted', hfree,
    hlocal, hrespond, hnothing⟩ <;> decide +kernel

end Session

end CommandTree
