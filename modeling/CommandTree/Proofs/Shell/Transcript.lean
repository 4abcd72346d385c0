import CommandTree.Proofs.Application.Grammar
import CommandTree.Proofs.Text.Utf8
import CommandTree.Shell

/-!
# Transcripts

A shell prints one segment for each line it is given: the line behind the prompt, and what
the line leads to.  No line has an influence on the segment of another, so a transcript is
the segments in a row, up to the first line that is no text.
-/

namespace CommandTree

open Text

/-! ## Segments -/

/-- What a line leads to in a fresh shell: the prompt and the line, and the messages of its
run that are not empty, each on a line of its own.  Warnings and errors stand behind the
leads that the configuration gives them. -/
def Shell.IsSegment (config : Config) (line segment : String) : Prop :=
  ∀ depth, ∃ run, (Application.shell config.linePrefix config).run depth line = some run ∧
    segment = config.prompt ++ line ++ "\n" ++
      String.join ((run.messages.filter fun message => message.text ≠ "").map fun message =>
        (match message.channel with
          | .output => ""
          | .warn => config.warnLead
          | .error => config.errorLead) ++ message.text ++ "\n")

theorem Console.lines_eq (console : Console) (messages : List Message) :
    console.lines messages =
      String.join ((messages.filter fun message => message.text ≠ "").map fun message =>
        console.lead message.channel ++ message.text ++ "\n") := by
  rw [lines]
  induction messages with
  | nil => rfl
  | cons message rest ih =>
      rw [List.map_cons, String.join_cons, ih]
      by_cases hempty : message.text = "" <;> simp [line, hempty]

namespace Shell

variable {config : Config} {input : List UInt8}

/-- The segment of a line in a fresh shell. -/
def lineSegment (config : Config) (line : String) : String :=
  segment config (Application.shell config.linePrefix config) line

theorem isSegment_lineSegment (config : Config) (line : String) :
    IsSegment config line (lineSegment config line) := by
  intro depth
  obtain ⟨run, hzero⟩ := Application.exists_run_zero config.linePrefix line config
  obtain ⟨run, hrun, hmessages⟩ := Dispatcher.run_of_run_zero hzero depth
  refine ⟨run, hrun, ?_⟩
  rw [hmessages, lineSegment, segment, Console.lines_eq]
  rfl

/-! ## Lines in a row -/

theorem feed_eq {dispatcher : Dispatcher Action} {unread : List (List UInt8)}
    (hunread : ∀ line ∈ unread.head?, ¬ IsUtf8 line) (texts : List String) :
    feed config dispatcher (texts.map (fun text => utf8 text.toList) ++ unread) =
      { output := String.join (texts.map (segment config dispatcher))
        completed := unread.isEmpty } := by
  induction texts with
  | nil =>
      cases unread with
      | nil => rfl
      | cons line later =>
          have hline := decode?_eq_none_iff.mpr (hunread line rfl)
          simp [feed, hline, Transcript.failed]
  | cons text texts ih =>
      have htext : decode? (utf8 text.toList) = some text := decode?_eq_some_iff.mpr rfl
      rw [List.map_cons, List.cons_append, feed, htext]
      simp [ih, Transcript.printedBefore]

/-- The line to start with, unless it is empty. -/
def startupLines (config : Config) : List String :=
  (config.startup.filter (· ≠ "")).toList

theorem startupSegment_eq (config : Config) (dispatcher : Dispatcher Action) :
    startupSegment config dispatcher =
      String.join ((startupLines config).map (segment config dispatcher)) := by
  rw [startupSegment, startupLines]
  cases config.startup with
  | none => rfl
  | some line => by_cases hempty : line = "" <;> simp [hempty, Option.filter_some]

theorem dispatcher_eq (config : Config) :
    Application.dispatcher config = (Application.shell config.linePrefix config, none) := by
  rw [Application.dispatcher, Application.registerAll_commands, Application.shell_eq]

theorem run_eq {texts : List String} {unread : List (List UInt8)}
    (hread : ReadsAs input texts unread) :
    run config input =
      { output := String.join ((startupLines config ++ texts).map (lineSegment config))
        completed := unread.isEmpty } := by
  rw [run, dispatcher_eq, cutsInto_iff.mp hread.1]
  simp only [feed_eq hread.2, startupSegment_eq, Transcript.printedBefore, List.map_append,
    String.join_append]
  rfl

theorem output_append {first later : List UInt8} (hfirst : IsUtf8 first)
    (hends : EndsLine first) :
    ∃ output,
      (run config later).output =
        String.join ((startupLines config).map (lineSegment config)) ++ output ∧
      (run config (first ++ later)).output = (run config first).output ++ output := by
  obtain ⟨texts, unread, hread⟩ := exists_readsAs first
  obtain rfl := hread.unread_eq_nil hfirst
  obtain ⟨more, rest, hmore⟩ := exists_readsAs later
  refine ⟨String.join (more.map (lineSegment config)), ?_, ?_⟩
  · simp [run_eq hmore]
  · simp [run_eq hread, run_eq (hread.append hends hmore), String.append_assoc]

theorem startupLines_eq_of_some {command : String}
    (hstartup : config.startup = some command) :
    startupLines config = if command = "" then [] else [command] := by
  by_cases hempty : command = "" <;> simp [startupLines, hstartup, hempty, Option.filter_some]

/-- A line to start with is as good as the first line of the input. -/
theorem run_of_startup {command : String} (hstartup : config.startup = some command)
    (hfeed : '\n' ∉ command.toList) (hreturn : command.toList.getLast? ≠ some '\r') :
    run config input = run { config with startup := none }
      (if command = "" then input else utf8 command.toList ++ lineFeed :: input) := by
  have hnone : startupLines { config with startup := none } = [] := rfl
  -- The commands and the console do not depend on the line to start with.
  have hsegment : lineSegment { config with startup := none } = lineSegment config := rfl
  obtain ⟨texts, unread, hread⟩ := exists_readsAs input
  rw [run_eq hread, startupLines_eq_of_some hstartup]
  by_cases hempty : command = ""
  · rw [if_pos hempty, if_pos hempty, run_eq hread, hnone, hsegment]
  · rw [if_neg hempty, if_neg hempty, run_eq (hread.cons hfeed hreturn), hnone, hsegment]
    rfl

/-- The transcript of every input.  It is the segments of the lines in order, the line to
start with first unless it is empty, up to a line that is no text; that line makes the shell
fail.  So the line to start with may as well be the first line of the input, if it is one
line and not empty, and an input that ends a line may be given in advance of another. -/
theorem transcript_of_every_input (config : Config) :
    let startup := (config.startup.filter (· ≠ "")).toList
    (∀ argument environment input, configure argument environment = .ok config →
      start argument environment input = run config input) ∧
    (∀ line, IsSegment config line (lineSegment config line)) ∧
    (∀ input, ∃ texts unread, ReadsAs input texts unread) ∧
    (∀ input texts unread, ReadsAs input texts unread →
      (run config input).output =
        String.join ((startup ++ texts).map (lineSegment config)) ∧
      (run config input).exitCode = if unread = [] then 0 else 1) ∧
    (∀ command input, config.startup = some command → '\n' ∉ command.toList →
      command.toList.getLast? ≠ some '\r' →
      run config input = run { config with startup := none }
        (if command = "" then input else utf8 command.toList ++ lineFeed :: input)) ∧
    ∀ first later, IsUtf8 first → EndsLine first →
      ∃ output,
        (run config later).output =
          String.join (startup.map (lineSegment config)) ++ output ∧
        (run config (first ++ later)).output = (run config first).output ++ output := by
  refine ⟨?_, isSegment_lineSegment config, exists_readsAs, ?_, ?_, ?_⟩
  · intro argument environment input hconfigured
    rw [start, hconfigured]
  · intro input texts unread hread
    rw [run_eq hread]
    refine ⟨rfl, ?_⟩
    cases unread <;> rfl
  · intro command input
    exact run_of_startup
  · intro first later
    exact output_append

end Shell

end CommandTree
