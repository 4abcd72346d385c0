import CommandTree.Node.Help
import CommandTree.Node.Walk
import CommandTree.Text.Affix

/-!
# Dispatchers

A dispatcher holds the registered commands of a shell: top-level nodes that are fit to
match, no two of them literals with the same word.  It takes the lines that begin with its
line prefix and walks its tree on what follows.
-/

namespace CommandTree

/-- What came of a line. -/
inductive Outcome where
  | ignored
  | executed
  | notFound
deriving DecidableEq, Repr

/-- The name of an outcome. -/
def Outcome.name : Outcome → String
  | ignored => "Ignored"
  | executed => "Executed"
  | notFound => "NotFound"

/-- What comes of a line whose walk comes out this way. -/
def Verdict.outcome {α : Type} : Verdict α → Outcome
  | refused => .notFound
  | accepted _ => .executed

/-- The registered commands of a shell. -/
structure Dispatcher (α : Type) where
  linePrefix : String
  /-- The registered nodes, oldest first. -/
  registered : List (Node α) := []
  /-- The words of the registered literals, oldest first. -/
  commands : List String := []

namespace Dispatcher

variable {α : Type}

def root (dispatcher : Dispatcher α) : Node α := .root dispatcher.registered

/-- What is wrong with registering a node. -/
def fault? (dispatcher : Dispatcher α) (node : Node α) : Option RegistrationFault :=
  match node.fault? with
  | some fault => some fault
  | none =>
    (node.literal?.filter (· ∈ dispatcher.commands)).map RegistrationFault.duplicateCommand

/-- The dispatcher with one more node: a literal is the latest command, and no other node is
a command. -/
def extend (dispatcher : Dispatcher α) (node : Node α) : Dispatcher α :=
  { dispatcher with
    registered := dispatcher.registered ++ [node]
    commands := dispatcher.commands ++ node.literal?.toList }

/-- Register a node, unless something is wrong with that. -/
def register (dispatcher : Dispatcher α) (node : Node α) :
    Except RegistrationFault (Dispatcher α) :=
  match dispatcher.fault? node with
  | some fault => .error fault
  | none => .ok (dispatcher.extend node)

theorem register_eq_ok_iff {dispatcher next : Dispatcher α} {node : Node α} :
    dispatcher.register node = .ok next ↔
      dispatcher.fault? node = none ∧ next = dispatcher.extend node := by
  unfold register
  split
  · next h => simp [h]
  · next h => simp [h, eq_comm]

/-- Register nodes one after the other, up to the first with which something is wrong. -/
def registerAll (dispatcher : Dispatcher α) :
    List (Node α) → Dispatcher α × Option RegistrationFault
  | [] => (dispatcher, none)
  | node :: rest =>
    match dispatcher.register node with
    | .error fault => (dispatcher, some fault)
    | .ok dispatcher => dispatcher.registerAll rest

/-- The record left by a registration, where `dispatcher` is the one before it. -/
def registrationRecord (dispatcher : Dispatcher α) (node : Node α) : Record :=
  let count := dispatcher.commands.length + if node.literal?.isSome then 1 else 0
  ⟨.debug, "registered top-level node #" ++ dispatcher.registered.length.repr ++ " ("
    ++ count.repr ++ " commands)"⟩

/-- The records left by registering nodes one after the other. -/
def registrationRecords (dispatcher : Dispatcher α) : List (Node α) → List Record
  | [] => []
  | node :: rest =>
    match dispatcher.register node with
    | .error _ => []
    | .ok next => dispatcher.registrationRecord node :: next.registrationRecords rest

/-- The registered literal with a given word. -/
def find? (dispatcher : Dispatcher α) (name : String) : Option (Node α) :=
  dispatcher.registered.find? fun node => node.literal? = some name

/-- The help on one command, or on all of them. -/
def help (dispatcher : Dispatcher α) : Option String → String
  | some name =>
    match dispatcher.find? name with
    | some node => node.help ""
    | none => "No help available for \"" ++ name ++ "\""
  | none => dispatcher.root.help ""

/-- What a line says after the line prefix. -/
def input? (dispatcher : Dispatcher α) (line : String) : Option String :=
  (Text.after? dispatcher.linePrefix.toList line.toList).map String.ofList

/-- A line that is taken is the line prefix followed by what it says. -/
theorem input?_eq_some_iff {dispatcher : Dispatcher α} {line input : String} :
    dispatcher.input? line = some input ↔ line = dispatcher.linePrefix ++ input := by
  rw [input?, Option.map_eq_some_iff]
  constructor
  · rintro ⟨rest, hrest, rfl⟩
    rw [← String.toList_inj, String.toList_append, String.toList_ofList]
    exact Text.after?_eq_some_iff.mp hrest
  · rintro rfl
    exact ⟨input.toList, by simp, String.ofList_toList⟩

/-- Walk the tree on what a line says after the line prefix. -/
def explore (dispatcher : Dispatcher α) (input : String) : Walk α :=
  dispatcher.root.walk dispatcher.commands (.start input)

/-- What comes of a line. -/
def outcome (dispatcher : Dispatcher α) (line : String) : Outcome :=
  match dispatcher.input? line with
  | none => .ignored
  | some input => (dispatcher.explore input).verdict.outcome

end Dispatcher

end CommandTree
