import CommandTree.Probe
import CommandTree.Proofs.Node.Mark

/-!
# Probing a context by offsets

The steps of a probe can be carried out with offsets alone.  Whatever the steps before, the
offset then falls between two characters of the input or at one of its ends, and the only
step that can fail is one that seeks an offset inside a character.  The same goes for the
lines that actions dispatch, since each of them is matched in a state of its own.
-/

namespace CommandTree.Probe

open Text

variable {dispatcher : Dispatcher Action} {depth : Nat} {context : Context} {step : Step}
  {P Q : ArgumentType → Prop}

/-- `P` holds of every argument type that the step uses. -/
def Step.AllTypes (P : ArgumentType → Prop) (dispatcher : Dispatcher Action) : Step → Prop
  | .read type => P type
  | .walk tree => tree.AllTypes P
  | .walkRegistered => dispatcher.root.AllTypes P
  | _ => True

theorem Step.AllTypes.mono (h : step.AllTypes P dispatcher) (hPQ : ∀ type, P type → Q type) :
    step.AllTypes Q dispatcher := by
  cases step with
  | read type => exact hPQ type h
  | walk tree => exact Node.AllTypes.mono h hPQ
  | walkRegistered => exact Node.AllTypes.mono h hPQ
  | _ => trivial

/-- Carry out a step with a mark in place of the cursor. -/
def performAt? (dispatcher : Dispatcher Action) (marked : MarkedContext) :
    Step → Option MarkedContext
  | .seek offset => marked.seek? offset
  | .skipBlanks => marked.mark.skipBlanks?.map fun mark => { marked with mark }
  | .blankWidth => marked.mark.blankWidth?.map fun _ => marked
  | .ahead => marked.mark.ahead?.map fun _ => marked
  | .consume word => (marked.mark.consume? word).map fun next? =>
      { marked with mark := next?.getD marked.mark }
  | .bind name value => some (marked.bind name value)
  | .read type => (type.readAt? dispatcher.commands marked).map Prod.snd
  | .walk tree => (tree.walkAt? dispatcher.commands marked).map MarkedWalk.context
  | .walkRegistered =>
      (dispatcher.root.walkAt? dispatcher.commands marked).map MarkedWalk.context
  | .atEnd | .argument _ | .display _ | .text _ | .integer _ | .bindings | .report _ =>
      some marked

/-! ## One step -/

theorem context_walk (tree : Node Action) :
    (walk dispatcher depth tree context).context =
      (tree.walk dispatcher.commands context).context := by
  unfold walk
  cases hrun : dispatcher.runWalk depth (tree.walk dispatcher.commands context) <;> simp [hrun]

theorem answer_walk_ne_misplaced (tree : Node Action) :
    (walk dispatcher depth tree context).answer ≠ .misplaced := by
  unfold walk
  cases hrun : dispatcher.runWalk depth (tree.walk dispatcher.commands context) <;> simp [hrun]

theorem performAt?_walk {tree : Node Action} (htypes : tree.AllTypes ArgumentType.KeepsLine) :
    (tree.walkAt? dispatcher.commands context.marked).map MarkedWalk.context =
      some (walk dispatcher depth tree context).context.marked := by
  rw [Node.walkAt?_marked htypes, context_walk]
  rfl

/-- A step that seeks an offset inside a character fails and changes nothing. -/
theorem performAt?_of_seek?_eq_none (dispatcher : Dispatcher Action) (depth : Nat)
    {offset : Nat} (hnone : context.cursor.seek? offset = none) :
    performAt? dispatcher context.marked (.seek offset) = none ∧
      perform dispatcher depth context (.seek offset) = { answer := .misplaced, context } := by
  have hmark : context.marked.mark.seek? offset = none := by
    have hseek := Cursor.seek?_mark context.cursor offset
    rwa [hnone] at hseek
  simp [performAt?, MarkedContext.seek?, hmark, perform, hnone]

/-- Any other step succeeds, and leads where it leads with a cursor. -/
theorem performAt?_marked (depth : Nat) (htypes : step.AllTypes ArgumentType.KeepsLine dispatcher)
    (hseek : ∀ offset, step = .seek offset → context.cursor.seek? offset ≠ none) :
    performAt? dispatcher context.marked step =
        some (perform dispatcher depth context step).context.marked ∧
      (perform dispatcher depth context step).answer ≠ .misplaced := by
  cases step with
  | seek offset =>
      obtain ⟨cursor, hcursor⟩ := Option.ne_none_iff_exists'.mp (hseek offset rfl)
      have hmark : context.marked.seek? offset = some (context.moveTo cursor).marked := by
        have hseek := congrArg (Option.map fun mark => { context.marked with mark })
          (context.cursor.seek?_mark offset)
        rwa [hcursor] at hseek
      simp [performAt?, hmark, perform, hcursor]
  | skipBlanks =>
      have hmark := congrArg (Option.map fun mark => { context.marked with mark })
        context.cursor.skipBlanks?_mark
      exact ⟨hmark, by simp [perform]⟩
  | blankWidth =>
      have hmark := congrArg (Option.map fun _ => context.marked) context.cursor.blankWidth?_mark
      exact ⟨hmark, by simp [perform]⟩
  | ahead =>
      have hmark := congrArg (Option.map fun _ => context.marked) context.cursor.ahead?_mark
      exact ⟨hmark, by simp [perform]⟩
  | consume word =>
      have hmark : context.marked.mark.consume? word =
          some ((context.cursor.consume? word).map Cursor.mark) := context.cursor.consume?_mark word
      rw [performAt?, hmark, perform]
      cases context.cursor.consume? word with
      | none => exact ⟨rfl, by simp⟩
      | some cursor => exact ⟨rfl, by simp⟩
  | read type =>
      have hmark := congrArg (Option.map Prod.snd)
        (type.readAt?_marked dispatcher.commands context)
      exact ⟨hmark, by simp [perform]⟩
  | walk tree => exact ⟨performAt?_walk htypes, answer_walk_ne_misplaced tree⟩
  | walkRegistered => exact ⟨performAt?_walk htypes, answer_walk_ne_misplaced _⟩
  | bind | atEnd | argument | display | text | integer | bindings | report =>
      exact ⟨rfl, by simp [perform]⟩

/-- No step leaves the line. -/
theorem line_perform (htypes : step.AllTypes ArgumentType.KeepsLine dispatcher) :
    (perform dispatcher depth context step).context.cursor.line = context.cursor.line := by
  cases step with
  | seek offset =>
      rw [perform]
      split
      · next cursor hcursor => exact Cursor.line_of_seek? hcursor
      · rfl
  | skipBlanks => exact Cursor.line_skipBlanks context.cursor
  | consume word =>
      rw [perform]
      split
      · next cursor hcursor => exact Cursor.line_of_consume? hcursor
      · rfl
  | read type => exact htypes dispatcher.commands context
  | walk tree =>
      rw [perform, context_walk]
      exact Node.line_walk htypes context
  | walkRegistered =>
      rw [perform, context_walk]
      exact Node.line_walk htypes context
  | blankWidth | ahead | bind | atEnd | argument | display | text | integer | bindings
  | report => rfl

/-! ## Many steps -/

/-- The context after steps. -/
def after (dispatcher : Dispatcher Action) (depth : Nat) (context : Context)
    (steps : List Step) : Context :=
  steps.foldl (fun current step => (perform dispatcher depth current step).context) context

/-- The context after steps with a mark, where a step that fails is passed over. -/
def afterAt (dispatcher : Dispatcher Action) (marked : MarkedContext) (steps : List Step) :
    MarkedContext :=
  steps.foldl (fun current step => (performAt? dispatcher current step).getD current) marked

theorem getD_performAt?_marked (context : Context) (depth : Nat)
    (htypes : step.AllTypes ArgumentType.KeepsLine dispatcher) :
    (performAt? dispatcher context.marked step).getD context.marked =
      (perform dispatcher depth context step).context.marked := by
  by_cases hseek : ∃ offset, step = .seek offset ∧ context.cursor.seek? offset = none
  · obtain ⟨offset, rfl, hnone⟩ := hseek
    obtain ⟨hmark, hcursor⟩ := performAt?_of_seek?_eq_none dispatcher depth hnone
    rw [hmark, hcursor]
    rfl
  · obtain ⟨hmark, -⟩ := performAt?_marked depth htypes
      fun offset hstep hnone => hseek ⟨offset, hstep, hnone⟩
    rw [hmark]
    rfl

/-- Steps lead to the same place with a mark as with a cursor, and that is in the line in
which they began. -/
theorem afterAt_marked (context : Context) {steps : List Step}
    (hsteps : ∀ step ∈ steps, step.AllTypes ArgumentType.KeepsLine dispatcher) :
    afterAt dispatcher context.marked steps = (after dispatcher depth context steps).marked ∧
      (after dispatcher depth context steps).cursor.line = context.cursor.line := by
  induction steps generalizing context with
  | nil => exact ⟨rfl, rfl⟩
  | cons step rest ih =>
      have hstep := hsteps step List.mem_cons_self
      have hlater := @ih (perform dispatcher depth context step).context fun other hother =>
        hsteps other (List.mem_cons_of_mem step hother)
      have hmark := getD_performAt?_marked context depth hstep
      rw [afterAt, after, List.foldl_cons, List.foldl_cons, hmark]
      exact ⟨hlater.1, hlater.2.trans (line_perform hstep)⟩

/-- After any steps the offset lies in the input and between two of its characters.  The next
step fails exactly if it seeks an offset inside a character, and then leaves the state as it
was; with a mark it fails in the same case, so no text is cut at any other offset than a
boundary, and no offset sought on a walk or by a type is anything else. -/
theorem offset_stays_on_boundary (dispatcher : Dispatcher Action) (depth : Nat)
    (input : String) (steps : List Step)
    (hsteps : ∀ step ∈ steps, step.AllTypes ArgumentType.IsStandard dispatcher) :
    let context := after dispatcher depth (.start input) steps
    let marked := afterAt dispatcher ⟨⟨input.toList, 0⟩, ∅⟩ steps
    marked = context.marked ∧ marked.mark.line = input.toList ∧
    marked.mark.offset ≤ input.utf8ByteSize ∧
    (⟨marked.mark.offset⟩ : String.Pos.Raw).IsValid input ∧
    ∀ step : Step, step.AllTypes ArgumentType.IsStandard dispatcher →
      let result := perform dispatcher depth context step
      (performAt? dispatcher marked step = none ↔ ∃ offset, step = .seek offset ∧
        ¬ (⟨min offset input.utf8ByteSize⟩ : String.Pos.Raw).IsValid input) ∧
      (result.answer = .misplaced ↔ performAt? dispatcher marked step = none) ∧
      (performAt? dispatcher marked step = none → result.context = context) := by
  intro context marked
  have hkeep : ∀ {step : Step}, step.AllTypes ArgumentType.IsStandard dispatcher →
      step.AllTypes ArgumentType.KeepsLine dispatcher :=
    fun h => h.mono fun _ htype => htype.keepsLine
  obtain ⟨hmarked, hline⟩ : marked = context.marked ∧ context.cursor.line = input.toList :=
    afterAt_marked (.start input) fun step hmem => hkeep (hsteps step hmem)
  have hboundary : IsBoundary input.toList context.cursor.offset :=
    ⟨context.cursor.behind, context.cursor.ahead, hline.symm, rfl⟩
  have hsize : width input.toList = input.utf8ByteSize := width_toList input
  rw [hmarked]
  refine ⟨rfl, hline, hsize ▸ hboundary.le_width, isValid_iff_isBoundary.mpr hboundary, ?_⟩
  intro step hstep result
  have hmisplaced : ∀ offset, context.cursor.seek? offset = none ↔
      ¬ (⟨min offset input.utf8ByteSize⟩ : String.Pos.Raw).IsValid input := by
    intro offset
    rw [isValid_iff_isBoundary, Cursor.seek?_eq_none_iff, hline, hsize]
  by_cases hseek : ∃ offset, step = .seek offset ∧ context.cursor.seek? offset = none
  · obtain ⟨offset, rfl, hnone⟩ := hseek
    obtain ⟨hmark, hresult⟩ := performAt?_of_seek?_eq_none dispatcher depth hnone
    have hresult : result = { answer := .misplaced, context } := hresult
    refine ⟨iff_of_true hmark ⟨offset, rfl, (hmisplaced offset).mp hnone⟩, ?_, ?_⟩
    · exact iff_of_true (by rw [hresult]) hmark
    · intro _
      rw [hresult]
  · obtain ⟨hmark, hanswer⟩ := performAt?_marked depth (hkeep hstep)
      fun offset heq hnone => hseek ⟨offset, heq, hnone⟩
    have hsome : performAt? dispatcher context.marked step ≠ none := by simp [hmark]
    refine ⟨iff_of_false hsome ?_, iff_of_false hanswer hsome, fun hnone => absurd hnone hsome⟩
    rintro ⟨offset, heq, hinside⟩
    exact hseek ⟨offset, heq, (hmisplaced offset).mpr hinside⟩

/-- A line with a blank of three bytes, the word `é` of two, and a text in quotes. -/
def accentLine : String := "\u3000é 7 \"x y\""

/-- A tree that takes the line. -/
def accentTree : Node Action :=
  { kind := .literal "é"
    children :=
      [{ kind := .argument "count" (.integer { minimum := some 1 })
         children := [{ kind := .argument "name" (.text {}), action := some .none }] }] }

/-- Steps of which the first seeks the middle of the word and the last reads it. -/
def accentSteps : List Step :=
  [.seek 4, .skipBlanks, .walk accentTree, .seek 0, .read (.text {})]

/-- The steps lead past the word.  Its middle cannot be sought from there, either. -/
theorem offset_stays_on_boundary_past_accent :
    let dispatcher : Dispatcher Action := { linePrefix := "" }
    (∀ step ∈ accentSteps, step.AllTypes ArgumentType.IsStandard dispatcher) ∧
    (afterAt dispatcher ⟨⟨accentLine.toList, 0⟩, ∅⟩ accentSteps).mark.offset = 5 ∧
    (⟨5⟩ : String.Pos.Raw).IsValid accentLine ∧
    (perform dispatcher 0 (after dispatcher 0 (.start accentLine) accentSteps)
      (.seek 4)).answer = .misplaced := by
  intro dispatcher
  have hsteps : ∀ step ∈ accentSteps, step.AllTypes ArgumentType.IsStandard dispatcher := by
    simp [accentSteps, Step.AllTypes, Node.AllTypes, accentTree, Node.nodes, Node.nodesOfAll,
      ArgumentType.IsStandard]
  have hoffset : (afterAt dispatcher ⟨⟨accentLine.toList, 0⟩, ∅⟩ accentSteps).mark.offset = 5 := by
    decide +kernel
  have hinside : ¬ (⟨min 4 accentLine.utf8ByteSize⟩ : String.Pos.Raw).IsValid accentLine := by
    decide +kernel
  obtain ⟨-, -, -, hvalid, hnext⟩ :=
    offset_stays_on_boundary dispatcher 0 accentLine accentSteps hsteps
  obtain ⟨hfails, hanswer, -⟩ := hnext (.seek 4) trivial
  rw [hoffset] at hvalid
  exact ⟨hsteps, hoffset, hvalid, hanswer.mpr (hfails.mpr ⟨4, rfl, hinside⟩)⟩

end CommandTree.Probe
