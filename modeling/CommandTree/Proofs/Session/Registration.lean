import CommandTree.Session
import CommandTree.Proofs.Dispatcher.Registration

/-!
# Registering in a session

A session may go on registering nodes after one has been refused.  Whatever comes of
each, the tree and the list of commands stay in step; a node that can be registered
becomes the last child of the root, and one that cannot changes nothing.
-/

namespace CommandTree.Session

variable {session : Session} {node : Node Action}

/-- The session after nodes were registered one after the other, whatever came of
each. -/
def registerEach (session : Session) (nodes : List (Node Action)) : Session :=
  nodes.foldl (fun current node => (current.perform (.register node)).session) session

/-! ## One registration -/

theorem perform_register_of_admits (h : session.dispatcher.Admits node) :
    (session.perform (.register node)).answer =
        .registered (session.dispatcher.root.children.length + 1) ∧
      (session.perform (.register node)).session =
        { session with dispatcher := session.dispatcher.extend node } := by
  have hregister : session.dispatcher.register node =
      .ok (session.dispatcher.extend node) :=
    Dispatcher.register_eq_ok_iff.mpr ⟨Dispatcher.fault?_eq_none_iff.mpr h, rfl⟩
  simp [perform, registerNodes, Dispatcher.registerAll, hregister, Dispatcher.extend,
    Dispatcher.root, Node.root]

theorem perform_register_of_not_admits (h : ¬ session.dispatcher.Admits node) :
    ∃ fault, session.dispatcher.fault? node = some fault ∧
      (session.perform (.register node)).answer = .fault fault ∧
      (session.perform (.register node)).session = session := by
  have hfault := mt Dispatcher.fault?_eq_none_iff.mp h
  obtain ⟨fault, hfault⟩ := Option.ne_none_iff_exists'.mp hfault
  refine ⟨fault, hfault, ?_⟩
  simp [perform, registerNodes, Dispatcher.registerAll, Dispatcher.register, hfault]

/-- A registration shows nothing: all it leaves are records. -/
theorem messages_perform_register (session : Session) (node : Node Action) :
    (session.perform (.register node)).notices.filterMap Notice.message? = [] := by
  simp [perform, registerNodes, Notice.message?]

/-! ## Many registrations -/

/-- What a registration preserves holds after any number of them. -/
theorem registerEach_invariant {I : Session → Prop}
    (hstep : ∀ session node, I session →
      I (session.perform (.register node)).session)
    (hinit : I session) (nodes : List (Node Action)) :
    I (session.registerEach nodes) := by
  induction nodes generalizing session with
  | nil => exact hinit
  | cons node rest ih =>
      apply ih
      exact hstep session node hinit

/-- The session has its first line prefix and sink, and a sound dispatcher. -/
structure InStep (linePrefix : String) (sink : Sink) (session : Session) : Prop where
  sound : session.dispatcher.Sound
  linePrefix_eq : session.dispatcher.linePrefix = linePrefix
  sink_eq : session.sink = sink

theorem InStep.perform_register {linePrefix : String} {sink : Sink}
    (h : session.InStep linePrefix sink) (node : Node Action) :
    (session.perform (.register node)).session.InStep linePrefix sink := by
  by_cases hadmits : session.dispatcher.Admits node
  · rw [(perform_register_of_admits hadmits).2]
    exact ⟨h.sound.extend hadmits, h.linePrefix_eq, h.sink_eq⟩
  · obtain ⟨_, -, -, hsession⟩ := perform_register_of_not_admits hadmits
    rw [hsession]
    exact h

theorem InStep.registerEach {linePrefix : String} {sink : Sink}
    (h : session.InStep linePrefix sink) (nodes : List (Node Action)) :
    (session.registerEach nodes).InStep linePrefix sink :=
  registerEach_invariant (fun _ node hbefore => hbefore.perform_register node) h nodes

/-- After any registrations, refused ones among them, the commands are the words of
the literals under the root, in order and all different, and every node of the tree is
fit.  The next node is accepted exactly if it is fit from top to bottom and its word is
free; then it becomes the last child of the root.  Otherwise nothing changes, and the
fault is that of its first unfit node, or that its word is taken if there is none. -/
theorem registration_keeps_commands_in_step (linePrefix : String) (sink : Sink)
    (calls : List (Node Action)) :
    let session := registerEach { dispatcher := { linePrefix }, sink } calls
    session.InStep linePrefix sink ∧
    ∀ node : Node Action,
      let result := session.perform (.register node)
      result.notices.filterMap Notice.message? = [] ∧
      ((∃ count, result.answer = .registered count) ↔
        session.dispatcher.Admits node) ∧
      (session.dispatcher.Admits node →
        result.session.InStep linePrefix sink ∧
        result.session.dispatcher.root.children =
          session.dispatcher.root.children ++ [node] ∧
        result.session.dispatcher.commands =
          session.dispatcher.commands ++ node.literal?.toList) ∧
      (¬ session.dispatcher.Admits node →
        result.session = session ∧
        ∃ fault, result.answer = .fault fault ∧
          ((∃ part, node.IsFirstUnfit part ∧ part.kind.fault? = some fault) ∨
            node.IsFit ∧ ∃ token ∈ session.dispatcher.commands,
              node.literal? = some token ∧ fault = .duplicateCommand token)) := by
  intro session
  have hinit : InStep linePrefix sink { dispatcher := { linePrefix }, sink } :=
    ⟨Dispatcher.sound_empty linePrefix, rfl, rfl⟩
  have hsession : session.InStep linePrefix sink :=
    registerEach_invariant (fun _ node hbefore => hbefore.perform_register node)
      hinit calls
  refine ⟨hsession, ?_⟩
  intro node result
  refine ⟨messages_perform_register session node, ?_, ?_, ?_⟩
  · constructor
    · rintro ⟨count, hcount⟩
      by_contra hadmits
      obtain ⟨fault, -, hanswer, -⟩ := perform_register_of_not_admits hadmits
      cases hcount.symm.trans hanswer
    · intro hadmits
      exact ⟨_, (perform_register_of_admits hadmits).1⟩
  · intro hadmits
    have hnext := (perform_register_of_admits hadmits).2
    refine ⟨hsession.perform_register node, ?_, ?_⟩
    · exact congrArg (fun session => session.dispatcher.root.children) hnext
    · exact congrArg (fun session => session.dispatcher.commands) hnext
  · intro hadmits
    obtain ⟨fault, hfault, hanswer, hsame⟩ := perform_register_of_not_admits hadmits
    exact ⟨hsame, fault, hanswer, Dispatcher.exists_cause_of_fault? hfault⟩

end CommandTree.Session
