import CommandTree.Proofs.Diagnostic.Kind
import CommandTree.Proofs.Dispatcher.Registration
import CommandTree.Proofs.Dispatcher.Response

/-!
# The diagnostics of a dispatch

A line without the line prefix is passed over in silence.  A line that no path takes
is answered with errors only: what is to be said of the arguments that were reached,
from top to bottom, and then, once, that the line was not found.  Of a line that is
taken a dispatcher itself never says so.
-/

namespace CommandTree

namespace Diagnostic

/-- No other diagnostic reads like one about a line that was not found. -/
theorem message_ne_message_notFound {diagnostic : Diagnostic}
    (h : ∀ line, diagnostic ≠ .notFound line) (line : String) :
    diagnostic.message ≠ (notFound line).message := by
  intro heq
  exact text_ne_text_notFound h line (congrArg Message.text heq)

theorem IsRejection.ne_notFound {diagnostic : Diagnostic}
    (h : diagnostic.IsRejection) (line : String) : diagnostic ≠ .notFound line := by
  rintro rfl
  exact h

end Diagnostic

namespace Node

variable {α : Type} {commands : List String}

theorem complaint_ne_notFound {node : Node α}
    (htypes : node.AllTypes ArgumentType.Disciplined) {context : Context}
    {diagnostic : Diagnostic} (hmem : diagnostic ∈ node.complaints commands context)
    (line : String) : diagnostic ≠ .notFound line := by
  cases hkind : node.kind with
  | root => simp [complaints, hkind] at hmem
  | literal token => simp [complaints, hkind] at hmem
  | argument name type =>
      simp only [complaints, hkind] at hmem
      rcases List.mem_append.mp hmem with hreport | hmissing
      · exact ((htypes.own hkind).rejections commands context hreport).ne_notFound line
      · split at hmissing
        · simp at hmissing
        · obtain rfl := List.mem_singleton.mp hmissing
          simp

/-- While a tree is explored, nothing is said of the line as a whole. -/
theorem diagnostics_walk_ne_notFound {node : Node α}
    (htypes : node.AllTypes ArgumentType.Disciplined) (context : Context) :
    ∀ diagnostic ∈ (node.walk commands context).diagnostics,
      ∀ line, diagnostic ≠ .notFound line := by
  have hevents : ∀ event ∈ (node.walk commands context).events,
      ∀ diagnostic ∈ event.diagnostic?, ∀ line, diagnostic ≠ .notFound line := by
    refine forall_events_walk ?_ ?_ context
    · rintro part hpart state diagnostic hmem _ ⟨⟩ line
      exact complaint_ne_notFound (htypes.of_mem_nodes hpart) hmem line
    · intro part hpart state next henter event hevent diagnostic hdiagnostic
      have hnone := diagnostics_entryEvents (htypes.of_mem_nodes hpart) henter
      have hmem : diagnostic ∈
          (part.entryEvents commands state).filterMap Event.diagnostic? :=
        List.mem_filterMap.mpr ⟨event, hevent, hdiagnostic⟩
      simp [hnone] at hmem
  intro diagnostic hmem
  obtain ⟨event, hevent, hdiagnostic⟩ := List.mem_filterMap.mp hmem
  exact hevents event hevent diagnostic hdiagnostic

end Node

namespace Dispatcher

/-- The diagnostics of the arguments that a line reaches and that cannot be read,
from top to bottom of the tree. -/
def refusals (dispatcher : Dispatcher Action) (input : String) : List Diagnostic :=
  dispatcher.root.refusals dispatcher.commands (.start input)

variable {dispatcher : Dispatcher Action} {line input : String}

theorem run_of_ignored (hinput : dispatcher.input? line = none) (depth : Nat) :
    dispatcher.run depth line = some { outcome := .ignored, notices := [] } := by
  have hrespond := respond_of_ignored hinput
  rw [run_of_notices (by simp [hrespond]), hrespond]
  rfl

/-- A line that is not found is run to its end, and what it shows is said of the
arguments it reaches and then of the line. -/
theorem run_of_refused
    (htypes : dispatcher.root.AllTypes ArgumentType.Disciplined)
    (hinput : dispatcher.input? line = some input)
    (hverdict : (dispatcher.explore input).verdict = .refused) (depth : Nat) :
    ∃ run, dispatcher.run depth line = some run ∧ run.outcome = .notFound ∧
      run.messages =
        (dispatcher.refusals input).map Diagnostic.message ++
          [(Diagnostic.notFound input).message] := by
  have hdiagnostics : (dispatcher.explore input).diagnostics =
      dispatcher.refusals input :=
    Node.diagnostics_of_walk_refused htypes rfl hverdict
  rw [← hdiagnostics]
  exact run_of_respond (respond_of_refused hinput hverdict)
    (fun _ => Effect.isSome_notice?_of_mem_report) depth

/-- What is said of a line.  Without the line prefix: nothing.  If it is not found:
the refusals of the arguments reached, then that it was not found, all of it errors,
and no action fires.  If it is taken: nothing about not finding it, except by the
action. -/
theorem diagnostics_of_dispatch (dispatcher : Dispatcher Action)
    (htypes : dispatcher.root.AllTypes ArgumentType.Disciplined) (line : String) :
    ((∀ input, line ≠ dispatcher.linePrefix ++ input) →
      dispatcher.fired line = [] ∧
        ∀ depth, dispatcher.run depth line =
          some { outcome := .ignored, notices := [] }) ∧
    ((dispatcher.respond line).outcome = .notFound →
      ∃ input, line = dispatcher.linePrefix ++ input ∧
        dispatcher.fired line = [] ∧
        (∀ depth, ∃ run, dispatcher.run depth line = some run ∧
          run.outcome = .notFound ∧
          run.messages =
            (dispatcher.refusals input).map Diagnostic.message ++
              [(Diagnostic.notFound input).message]) ∧
        ∀ diagnostic ∈ dispatcher.refusals input, ∀ other,
          diagnostic.message ≠ (Diagnostic.notFound other).message) ∧
    ((dispatcher.respond line).outcome = .executed →
      ∃ input own, line = dispatcher.linePrefix ++ input ∧
        (dispatcher.respond line).effects =
          own ++ dispatcher.firedEffects line ++
            [.record .debug ("dispatched " ++ Text.quoted input)] ∧
        ∀ message ∈ own.filterMap Effect.message?, ∀ other,
          message ≠ (Diagnostic.notFound other).message) := by
  cases hinput : dispatcher.input? line with
  | none =>
      have hrespond := respond_of_ignored hinput
      refine ⟨fun _ => ⟨by simp [fired, hinput], run_of_ignored hinput⟩, ?_, ?_⟩
      · simp [hrespond]
      · simp [hrespond]
  | some input =>
      have hline := input?_eq_some_iff.mp hinput
      have hne : ∀ diagnostic ∈ (dispatcher.explore input).diagnostics, ∀ other,
          diagnostic.message ≠ (Diagnostic.notFound other).message := by
        intro diagnostic hmem
        exact Diagnostic.message_ne_message_notFound
          (Node.diagnostics_walk_ne_notFound htypes _ diagnostic hmem)
      refine ⟨fun hnot => absurd hline (hnot input), ?_, ?_⟩
      · intro houtcome
        have hverdict : (dispatcher.explore input).verdict = .refused := by
          cases hcase : (dispatcher.explore input).verdict with
          | refused => rfl
          | accepted given => simp [respond_of_accepted hinput hcase] at houtcome
        have hdiagnostics : (dispatcher.explore input).diagnostics =
            dispatcher.refusals input :=
          Node.diagnostics_of_walk_refused htypes rfl hverdict
        refine ⟨input, hline, ?_, run_of_refused htypes hinput hverdict, ?_⟩
        · simp [fired_of_input? hinput, Walk.fired, hverdict, Verdict.action?]
        · rw [← hdiagnostics]
          exact hne
      · intro houtcome
        cases hverdict : (dispatcher.explore input).verdict with
        | refused => simp [respond_of_refused hinput hverdict] at houtcome
        | accepted given =>
            refine ⟨input, (dispatcher.explore input).events.flatMap Event.effects,
              hline, by rw [respond_of_accepted hinput hverdict], ?_⟩
            rw [Walk.messages_events]
            intro message hmem
            obtain ⟨diagnostic, hdiagnostic, rfl⟩ := List.mem_map.mp hmem
            exact hne diagnostic hdiagnostic

/-- A command that takes up to nine repetitions, or a text of some length. -/
def repeatCommand : Node Action :=
  { kind := .literal "repeat"
    children :=
      [{ kind := .argument "times" (.integer { maximum := some 9 })
         action := some .none },
        { kind := .argument "text" (.text { minLength := 4 })
          optional := true
          children := [{ kind := .argument "rest" .rest, action := some .none }] }] }

/-- The dispatcher with that command. -/
def repeatDispatcher : Dispatcher Action :=
  (registerAll { linePrefix := "!" } [repeatCommand]).1

/-- Too many repetitions are reported, and as missing, too; of the text only its
length is, since it may be left out. -/
theorem diagnostics_of_repeat :
    repeatDispatcher.root.AllTypes ArgumentType.Disciplined ∧
      (repeatDispatcher.respond "!repeat 10").outcome = .notFound ∧
      repeatDispatcher.refusals "repeat 10" =
        [.aboveMaximum 9, .missingArgument "times", .tooShort 4] ∧
      ∃ run, repeatDispatcher.run 0 "!repeat 10" = some run ∧
        run.messages =
          [Diagnostic.aboveMaximum 9, .missingArgument "times", .tooShort 4,
            .notFound "repeat 10"].map Diagnostic.message := by
  have htypes : repeatDispatcher.root.AllTypes ArgumentType.Disciplined := by
    apply allTypes_registerAll
    simp [Node.AllTypes, repeatCommand, Node.nodes, Node.nodesOfAll,
      ArgumentType.disciplined_integer, ArgumentType.disciplined_text,
      ArgumentType.disciplined_rest]
  have houtcome : (repeatDispatcher.respond "!repeat 10").outcome = .notFound := by
    decide +kernel
  have hrefusals : repeatDispatcher.refusals "repeat 10" =
      [.aboveMaximum 9, .missingArgument "times", .tooShort 4] := by
    decide +kernel
  have hinput : repeatDispatcher.input? "!repeat 10" = some "repeat 10" := by
    decide +kernel
  obtain ⟨-, hnotFound, -⟩ :=
    diagnostics_of_dispatch repeatDispatcher htypes "!repeat 10"
  obtain ⟨input, hline, -, hrun, -⟩ := hnotFound houtcome
  obtain rfl := Option.some.inj
    (hinput.symm.trans (input?_eq_some_iff.mpr hline))
  obtain ⟨run, hsome, -, hmessages⟩ := hrun 0
  refine ⟨htypes, houtcome, hrefusals, run, hsome, ?_⟩
  rw [hmessages, hrefusals]
  rfl

end Dispatcher

end CommandTree
