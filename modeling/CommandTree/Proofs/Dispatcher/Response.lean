import CommandTree.Dispatcher.Run
import CommandTree.Proofs.Node.Refusals

/-!
# The parts of a response

What a dispatched line leads to comes in three parts: what was noticed on the walk,
what the action that fires does, and what is said of the outcome.  Only the second
part can ask for further lines, so a line that fires nothing is run in the same way
at every depth.
-/

namespace CommandTree

/-! ## Effects of events -/

/-- A diagnostic as the user sees it. -/
def Diagnostic.message (diagnostic : Diagnostic) : Message :=
  ⟨.error, diagnostic.text⟩

/-- The message an effect sends by itself. -/
def Effect.message? (effect : Effect) : Option Message :=
  effect.notice?.bind Notice.message?

theorem Effect.isSome_notice?_of_mem_report {offset : Nat} {diagnostic : Diagnostic}
    {effect : Effect} (hmem : effect ∈ report offset diagnostic) :
    effect.notice?.isSome := by
  simp only [report, List.mem_cons, List.not_mem_nil, or_false] at hmem
  rcases hmem with rfl | rfl <;> rfl

theorem Event.isSome_notice?_of_mem_effects {event : Event} {effect : Effect}
    (hmem : effect ∈ event.effects) : effect.notice?.isSome := by
  cases event with
  | consumed token offset =>
      obtain rfl := List.mem_singleton.mp hmem
      rfl
  | bound name value =>
      obtain rfl := List.mem_singleton.mp hmem
      rfl
  | reported diagnostic offset => exact Effect.isSome_notice?_of_mem_report hmem

/-- What happens on a walk is only noticed. -/
theorem Walk.isSome_notice?_of_mem_effects {α : Type} {walk : Walk α} {effect : Effect}
    (hmem : effect ∈ walk.events.flatMap Event.effects) : effect.notice?.isSome := by
  obtain ⟨event, -, hevent⟩ := List.mem_flatMap.mp hmem
  exact Event.isSome_notice?_of_mem_effects hevent

/-- The messages of a walk are its diagnostics. -/
theorem Walk.messages_events {α : Type} (walk : Walk α) :
    (walk.events.flatMap Event.effects).filterMap Effect.message? =
      walk.diagnostics.map Diagnostic.message := by
  rw [diagnostics]
  induction walk.events with
  | nil => rfl
  | cons event rest ih =>
      rw [List.flatMap_cons, List.filterMap_append, ih]
      cases event <;> rfl

namespace Dispatcher

variable {dispatcher : Dispatcher Action} {line input : String}

/-! ## Responses -/

/-- A line is tried on the registered trees in turn. -/
theorem explore_eq {α : Type} (dispatcher : Dispatcher α) (input : String) :
    dispatcher.explore input =
      Node.walkAny dispatcher.commands dispatcher.registered (.start input) := by
  simp [explore, root, Node.root, Node.walk]

/-- The actions a line fires, each with the state of matching it sees.  What these
actions fire by dispatching further lines does not count. -/
def fired (dispatcher : Dispatcher Action) (line : String) :
    List (Action × Context) :=
  match dispatcher.input? line with
  | none => []
  | some input => (dispatcher.explore input).fired

/-- The effects of the actions a line fires, each of which has at hand the state it is fired
with, the commands of the dispatcher and its help. -/
def firedEffects (dispatcher : Dispatcher Action) (line : String) : List Effect :=
  (dispatcher.fired line).flatMap fun firing =>
    firing.1
      { context := firing.2, commands := dispatcher.commands, help := dispatcher.help }

theorem fired_of_input? (hinput : dispatcher.input? line = some input) :
    dispatcher.fired line = (dispatcher.explore input).fired := by
  simp [fired, hinput]

theorem firedEffects_of_accepted {action : Action}
    (hinput : dispatcher.input? line = some input)
    (hverdict : (dispatcher.explore input).verdict = .accepted (some action)) :
    dispatcher.firedEffects line =
      action (dispatcher.scene (dispatcher.explore input).context) := by
  simp [firedEffects, fired_of_input? hinput, Walk.fired, hverdict, Verdict.action?, scene]

theorem effectsOf_explore (hinput : dispatcher.input? line = some input) :
    dispatcher.effectsOf (dispatcher.explore input) =
      (dispatcher.explore input).events.flatMap Event.effects ++
        dispatcher.firedEffects line := by
  rw [effectsOf, firedEffects, fired_of_input? hinput, Walk.fired]
  cases (dispatcher.explore input).verdict.action? <;> simp [scene]

theorem respond_of_ignored (hinput : dispatcher.input? line = none) :
    dispatcher.respond line = { outcome := .ignored, effects := [] } := by
  simp [respond, hinput]

theorem respond_of_accepted {given : Option Action}
    (hinput : dispatcher.input? line = some input)
    (hverdict : (dispatcher.explore input).verdict = .accepted given) :
    dispatcher.respond line =
      { outcome := .executed
        effects :=
          (dispatcher.explore input).events.flatMap Event.effects ++
            dispatcher.firedEffects line ++
            [.record .debug ("dispatched " ++ Text.quoted input)] } := by
  simp [respond, hinput, hverdict, effectsOf_explore hinput, Verdict.outcome]

/-- A line that is taken shows the diagnostics of the walk and then what its action sends. -/
theorem messages_respond_of_accepted {given : Option Action}
    (hinput : dispatcher.input? line = some input)
    (hverdict : (dispatcher.explore input).verdict = .accepted given) :
    (dispatcher.respond line).messages =
      (dispatcher.explore input).diagnostics.map Diagnostic.message ++
        (dispatcher.firedEffects line).filterMap Effect.message? := by
  have hmessages : (dispatcher.respond line).messages =
      (dispatcher.respond line).effects.filterMap Effect.message? := rfl
  rw [hmessages, respond_of_accepted hinput hverdict, List.filterMap_append,
    List.filterMap_append, Walk.messages_events]
  exact List.append_nil _

theorem respond_of_refused (hinput : dispatcher.input? line = some input)
    (hverdict : (dispatcher.explore input).verdict = .refused) :
    dispatcher.respond line =
      { outcome := .notFound
        effects :=
          (dispatcher.explore input).events.flatMap Event.effects ++
            Effect.report (dispatcher.explore input).context.cursor.offset
              (.notFound input) } := by
  have hfired : dispatcher.firedEffects line = [] := by
    simp [firedEffects, fired_of_input? hinput, Walk.fired, hverdict,
      Verdict.action?]
  simp [respond, hinput, hverdict, effectsOf_explore hinput, hfired,
    Verdict.outcome]

/-- A line that fires nothing leads to what is noticed on the walk and to a last word on the
outcome, or to nothing at all. -/
theorem effects_respond_of_fired_eq_nil (hfired : dispatcher.fired line = []) :
    (dispatcher.respond line).effects = [] ∨
      ∃ input last, line = dispatcher.linePrefix ++ input ∧
        (dispatcher.respond line).effects =
          (dispatcher.explore input).events.flatMap Event.effects ++ last ∧
        (last = [.record .debug ("dispatched " ++ Text.quoted input)] ∨
          ∃ offset, last = Effect.report offset (.notFound input)) := by
  have hnone : dispatcher.firedEffects line = [] := by simp [firedEffects, hfired]
  cases hinput : dispatcher.input? line with
  | none => exact .inl (by rw [respond_of_ignored hinput])
  | some input =>
      refine .inr ⟨input, ?_⟩
      have hline := input?_eq_some_iff.mp hinput
      cases hverdict : (dispatcher.explore input).verdict with
      | accepted given =>
          refine ⟨_, hline, ?_, .inl rfl⟩
          rw [respond_of_accepted hinput hverdict, hnone, List.append_nil]
      | refused =>
          refine ⟨_, hline, ?_, .inr ⟨(dispatcher.explore input).context.cursor.offset, rfl⟩⟩
          rw [respond_of_refused hinput hverdict]

/-! ## Running a response -/

theorem carryOut_of_notices {effects : List Effect}
    (hnotices : ∀ effect ∈ effects, effect.notice?.isSome)
    (nested : String → Option Run) :
    carryOut nested effects = some (effects.filterMap Effect.notice?) := by
  induction effects with
  | nil => rfl
  | cons effect rest ih =>
      have hrest := ih fun later hlater =>
        hnotices later (List.mem_cons_of_mem effect hlater)
      cases effect with
      | notice notice => simp [carryOut, hrest, Effect.notice?]
      | dispatch line =>
          have hdispatch := hnotices (.dispatch line) List.mem_cons_self
          simp [Effect.notice?] at hdispatch

/-- A response without further lines is run in the same way at every depth. -/
theorem run_of_notices
    (hnotices : ∀ effect ∈ (dispatcher.respond line).effects,
      effect.notice?.isSome)
    (depth : Nat) :
    dispatcher.run depth line =
      some
        { outcome := (dispatcher.respond line).outcome
          notices := (dispatcher.respond line).effects.filterMap Effect.notice? } := by
  cases depth <;>
    simp [run, Run.ofResponse, carryOut_of_notices hnotices]

theorem isSome_notice?_of_carryOut {effects : List Effect} {notices : List Notice}
    (hcarried : carryOut (fun _ => none) effects = some notices) :
    ∀ effect ∈ effects, effect.notice?.isSome := by
  induction effects generalizing notices with
  | nil => exact fun effect hmem => absurd hmem List.not_mem_nil
  | cons effect rest ih =>
      cases effect with
      | notice notice =>
          obtain ⟨later, hrest, -⟩ := Option.map_eq_some_iff.mp hcarried
          exact List.forall_mem_cons.mpr ⟨rfl, ih hrest⟩
      | dispatch line => cases hcarried

/-- A line that can be run without further lines shows the messages of its response. -/
theorem run_of_run_zero {run : Run} (hzero : dispatcher.run 0 line = some run)
    (depth : Nat) :
    ∃ run, dispatcher.run depth line = some run ∧
      run.messages = (dispatcher.respond line).messages := by
  obtain ⟨notices, hcarried, -⟩ := Option.map_eq_some_iff.mp hzero
  refine ⟨_, run_of_notices (isSome_notice?_of_carryOut hcarried) depth, ?_⟩
  rw [Run.messages, List.filterMap_filterMap]
  rfl

/-- Effects can be carried out if the lines they ask for can be run. -/
theorem exists_carryOut {nested : String → Option Run} {effects : List Effect}
    (hnested : ∀ line, .dispatch line ∈ effects → ∃ run, nested line = some run) :
    ∃ notices, carryOut nested effects = some notices := by
  induction effects with
  | nil => exact ⟨[], rfl⟩
  | cons effect rest ih =>
      obtain ⟨later, hlater⟩ := ih fun line hmem => hnested line (List.mem_cons_of_mem effect hmem)
      cases effect with
      | notice notice => exact ⟨notice :: later, by simp [carryOut, hlater]⟩
      | dispatch line =>
          obtain ⟨run, hrun⟩ := hnested line List.mem_cons_self
          refine ⟨run.notices ++ .message ⟨.output, run.outcome.name⟩ :: later, ?_⟩
          simp [carryOut, hrun, hlater]

/-- What a response does beside the action that fires is to notify. -/
theorem mem_firedEffects_or_isSome_notice? {effect : Effect}
    (hmem : effect ∈ (dispatcher.respond line).effects) :
    effect ∈ dispatcher.firedEffects line ∨ effect.notice?.isSome := by
  cases hinput : dispatcher.input? line with
  | none => simp [respond_of_ignored hinput] at hmem
  | some input =>
      cases hverdict : (dispatcher.explore input).verdict with
      | accepted given =>
          rw [respond_of_accepted hinput hverdict, List.append_assoc] at hmem
          rcases List.mem_append.mp hmem with hwalk | hrest
          · exact .inr (Walk.isSome_notice?_of_mem_effects hwalk)
          · rcases List.mem_append.mp hrest with hfired | hrecord
            · exact .inl hfired
            · obtain rfl := List.mem_singleton.mp hrecord
              exact .inr rfl
      | refused =>
          rw [respond_of_refused hinput hverdict] at hmem
          rcases List.mem_append.mp hmem with hwalk | hreport
          · exact .inr (Walk.isSome_notice?_of_mem_effects hwalk)
          · exact .inr (Effect.isSome_notice?_of_mem_report hreport)

/-- Nothing but the action that fires asks for further lines. -/
theorem dispatch_mem_firedEffects {nested : String}
    (hmem : .dispatch nested ∈ (dispatcher.respond line).effects) :
    .dispatch nested ∈ dispatcher.firedEffects line := by
  rcases mem_firedEffects_or_isSome_notice? hmem with hfired | hnotice
  · exact hfired
  · cases hnotice

/-- A line can be run if the lines can that its action asks for. -/
theorem exists_run_succ {depth : Nat}
    (hnested : ∀ nested, .dispatch nested ∈ dispatcher.firedEffects line →
      ∃ run, dispatcher.run depth nested = some run) :
    ∃ run, dispatcher.run (depth + 1) line = some run ∧
      run.outcome = (dispatcher.respond line).outcome := by
  obtain ⟨notices, hnotices⟩ := exists_carryOut fun nested hmem =>
    hnested nested (dispatch_mem_firedEffects hmem)
  refine ⟨{ outcome := (dispatcher.respond line).outcome, notices }, ?_, rfl⟩
  rw [run, Run.ofResponse, hnotices]
  rfl

/-- A response to a walk that does nothing but notify: the diagnostics come first. -/
theorem run_of_respond {walk : Walk Action} {outcome : Outcome} {later : List Effect}
    (hrespond : dispatcher.respond line =
      { outcome, effects := walk.events.flatMap Event.effects ++ later })
    (hlater : ∀ effect ∈ later, effect.notice?.isSome) (depth : Nat) :
    ∃ run, dispatcher.run depth line = some run ∧ run.outcome = outcome ∧
      run.messages =
        walk.diagnostics.map Diagnostic.message ++ later.filterMap Effect.message? := by
  have hnotices : ∀ effect ∈ (dispatcher.respond line).effects,
      effect.notice?.isSome := by
    intro effect hmem
    rw [hrespond] at hmem
    rcases List.mem_append.mp hmem with hwalk | hrest
    · exact Walk.isSome_notice?_of_mem_effects hwalk
    · exact hlater effect hrest
  refine ⟨_, run_of_notices hnotices depth, by rw [hrespond], ?_⟩
  have hmessages := Walk.messages_events walk
  rw [Run.messages, List.filterMap_filterMap, hrespond, List.filterMap_append]
  exact congrArg (· ++ _) hmessages

/-- A line whose action asks for no further lines shows the diagnostics of the walk and
then what the action sends. -/
theorem run_of_accepted {given : Option Action}
    (hinput : dispatcher.input? line = some input)
    (hverdict : (dispatcher.explore input).verdict = .accepted given)
    (hfired : ∀ effect ∈ dispatcher.firedEffects line, effect.notice?.isSome)
    (depth : Nat) :
    ∃ run, dispatcher.run depth line = some run ∧ run.outcome = .executed ∧
      run.messages =
        (dispatcher.explore input).diagnostics.map Diagnostic.message ++
          (dispatcher.firedEffects line).filterMap Effect.message? := by
  have hrespond := respond_of_accepted hinput hverdict
  rw [List.append_assoc] at hrespond
  have hlater : ∀ effect ∈ dispatcher.firedEffects line ++
      [Effect.record .debug ("dispatched " ++ Text.quoted input)],
      effect.notice?.isSome :=
    List.forall_mem_append.mpr ⟨hfired, List.forall_mem_singleton.mpr rfl⟩
  obtain ⟨run, hrun, houtcome, hmessages⟩ := run_of_respond hrespond hlater depth
  refine ⟨run, hrun, houtcome, ?_⟩
  rw [hmessages, List.filterMap_append]
  exact congrArg (_ ++ ·) (List.append_nil _)

end Dispatcher

end CommandTree
