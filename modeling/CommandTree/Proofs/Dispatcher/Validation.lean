import CommandTree.Proofs.Dispatcher.Registration
import CommandTree.Proofs.Dispatcher.Response
import CommandTree.Proofs.Node.Provenance

/-!
# The arguments an action sees

Where all arguments are numbers or texts, an action that fires sees the arguments on
its path and no others, each with a value that its type admits.
-/

namespace CommandTree.Dispatcher

variable {dispatcher : Dispatcher Action} {line : String}

theorem exists_input_of_mem_fired {action : Action} {context : Context}
    (h : (action, context) ∈ dispatcher.fired line) :
    ∃ input, dispatcher.input? line = some input ∧
      (dispatcher.explore input).verdict = .accepted (some action) ∧
      (dispatcher.explore input).context = context := by
  cases hinput : dispatcher.input? line with
  | none => simp [fired, hinput] at h
  | some input =>
      rw [fired_of_input? hinput, Walk.fired] at h
      cases hverdict : (dispatcher.explore input).verdict with
      | refused => simp [hverdict, Verdict.action?] at h
      | accepted given =>
          obtain ⟨rfl, hcontext⟩ : given = some action ∧
              (dispatcher.explore input).context = context := by
            cases given with
            | none => simp [hverdict, Verdict.action?] at h
            | some other =>
                simpa [hverdict, Verdict.action?, eq_comm] using h
          exact ⟨input, rfl, hverdict, hcontext⟩

/-- No action sees an argument that was not validated.  The action that a line fires
is that of the last node of the first accepting path, and it is run on the state that the
path leads to; the names bound there are those of the arguments on the path, and the value
of a name is what the deepest argument of that name reads and admits.  A line that fires
nothing leads to what is noticed on the walk and to a last word on the outcome, if to
anything.  Nothing else is ever bound on the way, in no branch. -/
theorem fired_action_sees_admitted_arguments (dispatcher : Dispatcher Action)
    (htypes : dispatcher.root.AllTypes ArgumentType.IsStandard) (line : String) :
    (∀ action context, (action, context) ∈ dispatcher.fired line →
      ∃ input path legs last, line = dispatcher.linePrefix ++ input ∧
        Node.IsFirstPath dispatcher.commands dispatcher.root (.start input) path
          legs ∧
        legs.getLast? = some last ∧ last.node.action = some action ∧
        last.after = context ∧
        (dispatcher.respond line).effects =
          (dispatcher.explore input).events.flatMap Event.effects ++
            action { context, commands := dispatcher.commands, help := dispatcher.help } ++
            [.record .debug ("dispatched " ++ Text.quoted input)] ∧
        (∀ name, name ∈ context.bindings ↔
          ∃ leg ∈ legs, leg.node.argument? = some name) ∧
        ∀ name value, context.bindings[name]? = some value →
          ∃ front leg back, legs = front ++ leg :: back ∧
            leg.Provides dispatcher.commands name value ∧
            ∀ later ∈ back, later.node.argument? ≠ some name) ∧
    (dispatcher.fired line = [] →
      (dispatcher.respond line).effects = [] ∨
        ∃ input last, line = dispatcher.linePrefix ++ input ∧
          (dispatcher.respond line).effects =
            (dispatcher.explore input).events.flatMap Event.effects ++ last ∧
          (last = [.record .debug ("dispatched " ++ Text.quoted input)] ∨
            ∃ offset, last = Effect.report offset (.notFound input))) ∧
    ∀ input, line = dispatcher.linePrefix ++ input → ∀ name value,
      Event.bound name value ∈ (dispatcher.explore input).events →
        ∃ leg : Leg Action, leg.node ∈ dispatcher.root.nodes ∧
          leg.node.enter? dispatcher.commands leg.before = some leg.after ∧
          leg.Provides dispatcher.commands name value := by
  refine ⟨?_, effects_respond_of_fired_eq_nil, ?_⟩
  · intro action context hfired
    obtain ⟨input, hinput, hverdict, rfl⟩ := exists_input_of_mem_fired hfired
    have heffects := congrArg Response.effects (respond_of_accepted hinput hverdict)
    rw [firedEffects_of_accepted hinput hverdict] at heffects
    have hkeep := htypes.mono fun _ htype => htype.keepsBindings
    have hfollows := Node.followsPaths dispatcher.commands hkeep (.start input)
    rw [Node.FollowsPaths] at hfollows
    rw [explore] at hverdict ⊢
    rw [hverdict] at hfollows
    obtain ⟨path, legs, last, hfirst, hlast, haction, hend⟩ := hfollows
    have hnames := hfirst.accepts.unbound_or_provided htypes rfl hlast
    refine ⟨input, path, legs, last, input?_eq_some_iff.mp hinput, hfirst, hlast,
      haction.symm, hend.symm, heffects, ?_, ?_⟩
    · intro name
      rw [hend, Std.ExtTreeMap.mem_iff_isSome_getElem?]
      rcases hnames name with ⟨hunbound, hnone⟩ |
        ⟨front, leg, back, value, hvalue, rfl, ⟨type, hkind, -⟩, -⟩
      · simpa [hunbound] using hnone
      · simp only [hvalue, Option.isSome_some, true_iff]
        exact ⟨leg, by simp, Node.argument?_eq_some_iff.mpr ⟨type, hkind⟩⟩
    · intro name value hvalue
      rw [hend] at hvalue
      rcases hnames name with ⟨hunbound, -⟩ |
        ⟨front, leg, back, found, hfound, hlegs, hprovides, hback⟩
      · simp [hunbound] at hvalue
      · obtain rfl := Option.some.inj (hfound.symm.trans hvalue)
        exact ⟨front, leg, back, hlegs, hprovides, hback⟩
  · intro input _ name value hbound
    exact Node.provided_of_mem_events htypes hbound

/-- A command that sends a number to one of two known people, or a word to anyone
with a short name. -/
def sendCommand : Node Action :=
  { kind := .literal "send"
    children :=
      [{ kind := .argument "to" (.text { rule := some (.list ["ann", "bob"]) })
         children :=
          [{ kind := .argument "item" (.integer { minimum := some 1, maximum := some 5 })
             action := some .none }] },
        { kind := .argument "to" (.text { maxLength := some 3 })
          children := [{ kind := .argument "item" (.text {}), action := some .none }] }] }

/-- The dispatcher with that command. -/
def sendDispatcher : Dispatcher Action :=
  (registerAll { linePrefix := "!" } [sendCommand]).1

/-- A number out of bounds is sent as a word, after all, and both arguments are
admitted by the second way to write them. -/
theorem fired_action_sees_sent_word :
    sendDispatcher.root.AllTypes ArgumentType.IsStandard ∧
      ∃ action context, (action, context) ∈ sendDispatcher.fired "!send bob 9" ∧
        context.bindings["item"]? = some (.text "9") ∧
        ∃ (legs : List (Leg Action)), ∀ name value,
          context.bindings[name]? = some value →
            ∃ front leg back, legs = front ++ leg :: back ∧
              leg.Provides sendDispatcher.commands name value ∧
              ∀ later ∈ back, later.node.argument? ≠ some name := by
  have htypes : sendDispatcher.root.AllTypes ArgumentType.IsStandard := by
    apply allTypes_registerAll
    simp [Node.AllTypes, sendCommand, Node.nodes, Node.nodesOfAll,
      ArgumentType.IsStandard]
  have hitems : (sendDispatcher.fired "!send bob 9").map
      (fun firing => firing.2.bindings["item"]?) = [some (.text "9")] := by
    decide +kernel
  obtain ⟨⟨action, context⟩, hfired, hitem⟩ :
      ∃ firing ∈ sendDispatcher.fired "!send bob 9",
        firing.2.bindings["item"]? = some (.text "9") :=
    List.mem_map.mp (hitems ▸ List.mem_singleton_self _)
  obtain ⟨hpaths, -⟩ :=
    fired_action_sees_admitted_arguments sendDispatcher htypes "!send bob 9"
  obtain ⟨input, path, legs, last, -, -, -, -, -, -, -, hprovided⟩ :=
    hpaths action context hfired
  exact ⟨htypes, action, context, hfired, hitem, legs, hprovided⟩

end CommandTree.Dispatcher
