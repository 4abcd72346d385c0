import CommandTree.Proofs.Dispatcher.Response
import CommandTree.Proofs.Node.Lookup

/-!
# Looking something up

A command that looks up a text in a list shows one thing if the text is on the list,
and another otherwise; a text that is not on the list is reported first.
-/

namespace CommandTree

/-- What is said of a text that is not one of those allowed, which are joined by commas. -/
def complaint (allowed : List String) (named? : Option String) : List Message :=
  let refusal := Diagnostic.notInList (",".intercalate allowed)
  ((named?.filter (· ∉ allowed)).map fun _ => refusal.message).toList

theorem complaint_of_mem {allowed : List String} {name : String} (hmem : name ∈ allowed) :
    complaint allowed (some name) = [] := by
  rw [complaint, Option.filter_some, if_neg (by simpa using hmem)]
  rfl

theorem complaint_of_not_mem {allowed : List String} {name : String}
    (hnew : name ∉ allowed) :
    complaint allowed (some name) =
      [(Diagnostic.notInList (",".intercalate allowed)).message] := by
  rw [complaint, Option.filter_some, if_pos (by simpa using hnew)]
  rfl

/-- A text without quotes has no answer that begins with one, where what is shown of a text
on the list begins with that text. -/
theorem answer_ne_of_quoteless {allowed : List String} {shown : Option String → String}
    {text result : String}
    (hhead : ∀ name ∈ allowed, (shown (some name)).toList.head? = name.toList.head?)
    (hquoteless : '"' ∉ text.toList) (hresult : result.toList.head? = some '"') :
    complaint allowed (some text) ++
      [⟨.output, shown ((some text).filter (· ∈ allowed))⟩] ≠ [⟨.output, result⟩] := by
  by_cases hmem : text ∈ allowed
  · rw [complaint_of_mem hmem, Option.filter_some, if_pos (by simpa using hmem), List.nil_append]
    intro heq
    have hshown : shown (some text) = result := by simpa using heq
    have hfirst := hhead text hmem
    rw [hshown, hresult] at hfirst
    exact hquoteless (List.mem_of_head? hfirst.symm)
  · rw [complaint_of_not_mem hmem]
    simp

/-- A type with no other rule than that its texts are on a list. -/
def TextType.IsListed (type : TextType) (commands allowed : List String) : Prop :=
  ∀ text, type.check commands text =
    if text ∈ allowed then none else some (.outside allowed)

/-- What such a type says of a text is the complaint about it. -/
theorem TextType.IsListed.map_message_check {type : TextType} {commands allowed : List String}
    (h : type.IsListed commands allowed) (named? : Option String) :
    (named?.bind (type.check commands)).toList.map Diagnostic.message =
      complaint allowed named? := by
  cases named? with
  | none => rfl
  | some text =>
      rw [Option.bind_some, h text]
      by_cases hmem : text ∈ allowed
      · rw [if_pos hmem, complaint_of_mem hmem]
        rfl
      · rw [if_neg hmem, complaint_of_not_mem hmem]
        rfl

theorem TextType.IsListed.isNone_check {type : TextType} {commands allowed : List String}
    (h : type.IsListed commands allowed) (text : String) :
    (type.check commands text).isNone = decide (text ∈ allowed) := by
  rw [h text]
  by_cases hmem : text ∈ allowed <;> simp [hmem]

theorem TextType.isListed_commands (commands : List String) :
    ({ rule := some .commands } : TextType).IsListed commands commands := by
  intro text
  simp only [check, Option.bind_some, Rule.check]
  split <;> simp [checkLength]

theorem TextType.isListed_list (commands allowed : List String) :
    ({ rule := some (.list allowed) } : TextType).IsListed commands allowed := by
  intro text
  simp only [check, Option.bind_some, Rule.check]
  split <;> simp [checkLength]

namespace Dispatcher

variable {dispatcher : Dispatcher Action} {line input : String}

/-- A line whose action sends one text shows the diagnostics of the walk and then that
text. -/
theorem run_of_sent {action : Action} {text : String}
    (hinput : dispatcher.input? line = some input)
    (hverdict : (dispatcher.explore input).verdict = .accepted (some action))
    (hsent : action (dispatcher.scene (dispatcher.explore input).context) =
      [.send .output text]) (depth : Nat) :
    ∃ run, dispatcher.run depth line = some run ∧ run.outcome = .executed ∧
      run.messages =
        (dispatcher.explore input).diagnostics.map Diagnostic.message ++
          [⟨.output, text⟩] := by
  have hfired : dispatcher.firedEffects line = [.send .output text] :=
    (firedEffects_of_accepted hinput hverdict).trans hsent
  have hnotices : ∀ effect ∈ dispatcher.firedEffects line, effect.notice?.isSome := by
    intro effect hmem
    rw [hfired] at hmem
    obtain rfl := List.mem_singleton.mp hmem
    rfl
  obtain ⟨run, hrun, houtcome, hmessages⟩ := run_of_accepted hinput hverdict hnotices depth
  refine ⟨run, hrun, houtcome, ?_⟩
  rw [hmessages, hfired]
  rfl

/-- A command that looks up a text in a list shows one text, wherever it takes the line; a
text that is not on the list is reported, and nothing else is. -/
theorem walk_of_lookup {lookup : Lookup Action} {allowed : List String}
    {shown : String → String} {shownAll : String} {context : Context} {cursor : Cursor}
    (hconsume : context.cursor.consume? lookup.token = some cursor)
    (hlisted : lookup.type.IsListed dispatcher.commands allowed)
    (hone : ∀ context text, text ∈ allowed →
      context.bindings[lookup.argument]? = some (.text text) →
        lookup.one (dispatcher.scene context) = [.send .output (shown text)])
    (hall : ∀ context, lookup.all (dispatcher.scene context) = [.send .output shownAll]) :
    let walk := lookup.node.walk dispatcher.commands context
    walk.diagnostics.map Diagnostic.message = complaint allowed cursor.nextText? ∧
      ∃ action, walk.verdict = .accepted (some action) ∧
        action (dispatcher.scene walk.context) =
          [.send .output (match cursor.nextText?.filter (· ∈ allowed) with
            | some text => shown text
            | none => shownAll)] := by
  intro walk
  obtain ⟨hdiagnostics, hverdict, hbound⟩ :=
    Lookup.walk_node dispatcher.commands hconsume
  have hcomplaint : walk.diagnostics.map Diagnostic.message =
      complaint allowed cursor.nextText? := by
    rw [hdiagnostics]
    exact hlisted.map_message_check cursor.nextText?
  simp only [hlisted.isNone_check] at hverdict hbound
  refine ⟨hcomplaint, ?_⟩
  cases hfilter : cursor.nextText?.filter (· ∈ allowed) with
  | none =>
      rw [hfilter] at hverdict
      exact ⟨lookup.all, hverdict, hall _⟩
  | some text =>
      rw [hfilter] at hverdict
      have hmem : text ∈ allowed :=
        of_decide_eq_true (Option.filter_eq_some_iff.mp hfilter).2
      exact ⟨lookup.one, hverdict, hone _ text hmem (hbound text hfilter)⟩

/-- The answer of a command that looks up a text in a list. -/
theorem run_of_lookup {lookup : Lookup Action} {allowed : List String}
    {shown : String → String} {shownAll : String} {cursor : Cursor}
    (hinput : dispatcher.input? line = some input)
    (hexplore : dispatcher.explore input =
      lookup.node.walk dispatcher.commands (.start input))
    (hconsume : (Context.start input).cursor.consume? lookup.token = some cursor)
    (hlisted : lookup.type.IsListed dispatcher.commands allowed)
    (hone : ∀ context text, text ∈ allowed →
      context.bindings[lookup.argument]? = some (.text text) →
        lookup.one (dispatcher.scene context) = [.send .output (shown text)])
    (hall : ∀ context, lookup.all (dispatcher.scene context) = [.send .output shownAll])
    (depth : Nat) :
    ∃ run, dispatcher.run depth line = some run ∧ run.outcome = .executed ∧
      run.messages = complaint allowed cursor.nextText? ++
        [⟨.output, match cursor.nextText?.filter (· ∈ allowed) with
          | some text => shown text
          | none => shownAll⟩] := by
  obtain ⟨hdiagnostics, action, hverdict, hsent⟩ :=
    walk_of_lookup hconsume hlisted hone hall
  rw [← hexplore] at hdiagnostics hverdict hsent
  rw [← hdiagnostics]
  exact run_of_sent hinput hverdict hsent depth

end Dispatcher

end CommandTree
