import CommandTree.Output.Buffer

/-!
# Runs of a buffer

What one operation takes out, followed by what it leaves in the buffer, is what was there
before, followed by what the operation sends (`Buffer.taken_append_lines_perform`).  So over any
run nothing is lost, sent twice or moved (`Buffer.takenAll_append_lines_performAll`).  Looking
at a buffer leaves it as it is, and the views of it agree with each other.
-/

namespace CommandTree

namespace Buffer

/-! ## Views -/

/-- The texts of messages by channels: each message stands in the list of its channel, in the
order of the messages, and in no other list. -/
inductive Sorts : List Message → (outputs warnings errors : List String) → Prop where
  | nil : Sorts [] [] [] []
  | output {messages : List Message} {outputs warnings errors : List String} (text : String)
      (h : Sorts messages outputs warnings errors) :
      Sorts (⟨.output, text⟩ :: messages) (text :: outputs) warnings errors
  | warn {messages : List Message} {outputs warnings errors : List String} (text : String)
      (h : Sorts messages outputs warnings errors) :
      Sorts (⟨.warn, text⟩ :: messages) outputs (text :: warnings) errors
  | error {messages : List Message} {outputs warnings errors : List String} (text : String)
      (h : Sorts messages outputs warnings errors) :
      Sorts (⟨.error, text⟩ :: messages) outputs warnings (text :: errors)

theorem Sorts.length_eq {messages : List Message} {outputs warnings errors : List String}
    (h : Sorts messages outputs warnings errors) :
    outputs.length + warnings.length + errors.length = messages.length := by
  induction h with
  | nil => rfl
  | output text h ih | warn text h ih | error text h ih =>
      simp only [List.length_cons]
      omega

theorem sorts_texts (buffer : Buffer) :
    Sorts buffer.lines (buffer.texts .output) (buffer.texts .warn) (buffer.texts .error) := by
  obtain ⟨messages⟩ := buffer
  induction messages with
  | nil => exact .nil
  | cons message rest ih =>
      obtain ⟨channel, text⟩ := message
      cases channel with
      | output => exact ih.output text
      | warn => exact ih.warn text
      | error => exact ih.error text

/-- The views of a buffer agree with each other. -/
structure IsCoherent (buffer : Buffer) : Prop where
  sorts : Sorts buffer.lines (buffer.texts .output) (buffer.texts .warn) (buffer.texts .error)
  length_eq : (buffer.texts .output).length + (buffer.texts .warn).length +
    (buffer.texts .error).length = buffer.lines.length
  isEmpty_iff : buffer.isEmpty = true ↔
    buffer.texts .output = [] ∧ buffer.texts .warn = [] ∧ buffer.texts .error = []

theorem isCoherent (buffer : Buffer) : buffer.IsCoherent := by
  have hlength := (sorts_texts buffer).length_eq
  refine ⟨sorts_texts buffer, hlength, ?_⟩
  rw [isEmpty, List.isEmpty_iff_length_eq_zero, ← hlength]
  simp only [← List.length_eq_zero_iff]
  omega

/-! ## Operations -/

/-- The messages an operation sends. -/
def Operation.sent : Operation → List Message
  | send message => [message]
  | _ => []

/-- Whether an operation only looks at the buffer. -/
def Operation.isLook : Operation → Bool
  | send _ | take => false
  | lines | texts _ | isEmpty => true

/-- The messages an operation takes out, as its answer tells. -/
def taken : Operation → Answer → List Message
  | .take, .messages messages => messages
  | _, _ => []

theorem taken_of_isLook {operation : Operation} (hlook : operation.isLook = true)
    (answer : Answer) : taken operation answer = [] := by
  cases operation with
  | take => cases hlook
  | _ => rfl

/-- What an operation takes out and what it leaves is what was there and what it sends. -/
theorem taken_append_lines_perform (buffer : Buffer) (operation : Operation) :
    taken operation (buffer.perform operation).1 ++ (buffer.perform operation).2.lines =
      buffer.lines ++ operation.sent := by
  cases operation <;> simp [taken, perform, Operation.sent]

/-- Looking at a buffer changes nothing. -/
theorem perform_of_isLook {operation : Operation} (hlook : operation.isLook = true)
    (buffer : Buffer) : (buffer.perform operation).2 = buffer := by
  cases operation with
  | send message | take => cases hlook
  | _ => rfl

/-! ## Runs -/

/-- The messages that are taken out by operations with these answers. -/
def takenAll (operations : List Operation) (answers : List Answer) : List Message :=
  (List.zipWith taken operations answers).flatten

/-- The operations that do not only look at the buffer. -/
def changes (operations : List Operation) : List Operation :=
  operations.filter fun operation => !operation.isLook

theorem performAll_append (buffer : Buffer) (before after : List Operation) :
    buffer.performAll (before ++ after) =
      ((buffer.performAll before).1 ++ ((buffer.performAll before).2.performAll after).1,
        ((buffer.performAll before).2.performAll after).2) := by
  induction before generalizing buffer with
  | nil => rfl
  | cons operation rest ih => simp [performAll, ih]

theorem length_answers (buffer : Buffer) (operations : List Operation) :
    (buffer.performAll operations).1.length = operations.length := by
  induction operations generalizing buffer with
  | nil => rfl
  | cons operation rest ih => simp [performAll, ih]

theorem takenAll_performAll_cons (buffer : Buffer) (operation : Operation)
    (rest : List Operation) :
    takenAll (operation :: rest) (buffer.performAll (operation :: rest)).1 =
      taken operation (buffer.perform operation).1 ++
        takenAll rest ((buffer.perform operation).2.performAll rest).1 :=
  rfl

/-- What a run takes out and what it leaves is what was there and what the run sends. -/
theorem takenAll_append_lines_performAll (buffer : Buffer) (operations : List Operation) :
    takenAll operations (buffer.performAll operations).1 ++
        (buffer.performAll operations).2.lines =
      buffer.lines ++ operations.flatMap Operation.sent := by
  induction operations generalizing buffer with
  | nil => simp [takenAll, performAll]
  | cons operation rest ih =>
      rw [takenAll_performAll_cons, List.flatMap_cons, List.append_assoc]
      calc
        taken operation (buffer.perform operation).1 ++
            (takenAll rest ((buffer.perform operation).2.performAll rest).1 ++
              ((buffer.perform operation).2.performAll rest).2.lines) =
            taken operation (buffer.perform operation).1 ++
              ((buffer.perform operation).2.lines ++ rest.flatMap Operation.sent) := by
          rw [ih]
        _ = buffer.lines ++ operation.sent ++ rest.flatMap Operation.sent := by
          rw [← List.append_assoc, taken_append_lines_perform]
        _ = buffer.lines ++ (operation.sent ++ rest.flatMap Operation.sent) :=
          List.append_assoc _ _ _

/-- A run takes out and leaves the same without the operations that only look. -/
theorem performAll_changes (buffer : Buffer) (operations : List Operation) :
    takenAll (changes operations) (buffer.performAll (changes operations)).1 =
        takenAll operations (buffer.performAll operations).1 ∧
      (buffer.performAll (changes operations)).2 = (buffer.performAll operations).2 := by
  induction operations generalizing buffer with
  | nil => exact ⟨rfl, rfl⟩
  | cons operation rest ih =>
      cases hlook : operation.isLook with
      | true =>
          have hchanges : changes (operation :: rest) = changes rest := by
            simp [changes, hlook]
          obtain ⟨htaken, hleft⟩ := ih buffer
          rw [hchanges, takenAll_performAll_cons, taken_of_isLook hlook, List.nil_append]
          simp only [performAll, perform_of_isLook hlook]
          exact ⟨htaken, hleft⟩
      | false =>
          have hchanges : changes (operation :: rest) = operation :: changes rest := by
            simp [changes, hlook]
          obtain ⟨htaken, hleft⟩ := ih (buffer.perform operation).2
          rw [hchanges, takenAll_performAll_cons, takenAll_performAll_cons, htaken]
          exact ⟨rfl, hleft⟩

/-- Over any run from an empty buffer, what is taken out, followed by what is left, is exactly
what was sent.  Each operation is answered from the buffer that the operations before it left:
taking empties it, looking leaves it as it is, and after each operation the views agree.
Without the operations that only look, the run takes out and leaves the same. -/
theorem messages_leave_once_in_order (operations : List Operation) :
    let run := empty.performAll operations
    takenAll operations run.1 ++ run.2.lines = operations.flatMap Operation.sent ∧
    run.1.length = operations.length ∧
    (∀ before operation after, operations = before ++ operation :: after →
      let left := (empty.performAll before).2
      let next := (left.perform operation).2
      run = ((empty.performAll before).1 ++ (left.perform operation).1 ::
        (next.performAll after).1, (next.performAll after).2) ∧
      (operation = .take → next = empty) ∧
      (operation.isLook = true → next = left) ∧
      next.IsCoherent) ∧
    takenAll (changes operations) (empty.performAll (changes operations)).1 =
      takenAll operations run.1 ∧
    (empty.performAll (changes operations)).2 = run.2 := by
  intro run
  obtain ⟨htaken, hleft⟩ := performAll_changes empty operations
  refine ⟨?_, length_answers empty operations, ?_, htaken, hleft⟩
  · exact takenAll_append_lines_performAll empty operations
  · rintro before operation after rfl
    refine ⟨performAll_append empty before (operation :: after), ?_, ?_, isCoherent _⟩
    · rintro rfl
      rfl
    · intro hlook
      exact perform_of_isLook hlook _

/-- Operations that send on all channels, an empty text among them, and that take and look in
between. -/
def mixedOperations : List Operation :=
  [.send ⟨.output, "one"⟩, .send ⟨.error, ""⟩, .texts .error, .take, .isEmpty,
    .send ⟨.warn, "two"⟩, .lines, .send ⟨.output, "one"⟩]

/-- The first two messages are taken out, looking finds the buffer empty after that and does not
change it, and the last two messages are left. -/
theorem messages_leave_once_from_mixed_run :
    let run := empty.performAll mixedOperations
    let left := (empty.performAll (mixedOperations.take 4)).2
    takenAll mixedOperations run.1 = [⟨.output, "one"⟩, ⟨.error, ""⟩] ∧
    run.2.lines = [⟨.warn, "two"⟩, ⟨.output, "one"⟩] ∧
    mixedOperations = mixedOperations.take 4 ++ .isEmpty :: mixedOperations.drop 5 ∧
    left = empty ∧ (left.perform .isEmpty).1 = .flag true ∧
    (left.perform .isEmpty).2 = left ∧ (left.perform .isEmpty).2.IsCoherent := by
  intro run left
  have hsplit : mixedOperations =
      mixedOperations.take 4 ++ .isEmpty :: mixedOperations.drop 5 := by decide
  obtain ⟨-, -, hstep, -, -⟩ := messages_leave_once_in_order mixedOperations
  obtain ⟨-, -, hlook, hcoherent⟩ := hstep _ _ _ hsplit
  exact ⟨by decide, by decide, hsplit, by decide, by decide, hlook rfl, hcoherent⟩

end Buffer

end CommandTree
