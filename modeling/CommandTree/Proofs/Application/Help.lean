import CommandTree.Proofs.Application.Grammar
import CommandTree.Proofs.Argument.Admission
import CommandTree.Proofs.Session.Commands

/-!
# Help on the commands

A type that lets through commands reads nothing but words that can be looked up, since the
list it goes by and the registered literals are kept in step.  So the help command shows the
help on a registered tree, or on all of them, and never says that there is none.

Any command can be named in a line that asks for help, except for those that begin with a
double quote closed within them: only what is between the quotes is read of these.
-/

namespace CommandTree.Application

open Text

/-! ## Commands that are read -/

/-- The help command takes the lines that begin with its word and that no tree before it
takes.  It sends one text. -/
theorem firedEffects_help {dispatcher : Dispatcher Action} {front back : List (Node Action)}
    {line input : String} (hregistered : dispatcher.registered = front ++ helpCommand :: back)
    (hfront : (Node.walkAny dispatcher.commands front (.start input)).verdict = .refused)
    (hinput : dispatcher.input? line = some input)
    (hword : (Context.start input).cursor.nextWord = "help".toList) :
    let named? := (Context.start input).cursor.pastWord.nextText?
    dispatcher.firedEffects line =
      [.send .output (dispatcher.help (named?.filter (· ∈ dispatcher.commands)))] := by
  intro named?
  let last := (Node.walkAny dispatcher.commands front (.start input)).context
  have hcursor : last.cursor = (Context.start input).cursor :=
    Node.cursor_of_walkAny_refused hfront
  have hconsume : last.cursor.consume? "help" = some last.cursor.pastWord := by
    rw [hcursor]
    exact consume?_of_nextWord_eq (by decide) hword
  obtain ⟨-, action, hverdict, hsent⟩ := walk_help dispatcher hconsume
  have hexplore : dispatcher.explore input =
      (helpCommand.walk dispatcher.commands last).after
        (Node.walkAny dispatcher.commands front (.start input)).events := by
    rw [Dispatcher.explore_eq, hregistered, Node.walkAny_append_of_refused hfront,
      Node.walkAny_cons_of_accepted hverdict]
  have hgiven : (dispatcher.explore input).verdict = .accepted (some action) := by
    rw [hexplore]
    exact hverdict
  rw [Dispatcher.firedEffects_of_accepted hinput hgiven, hexplore]
  rw [hcursor] at hsent
  exact hsent

/-- After any registrations a text that is let through for being a command is found.  It is
the word of one registered literal and of no other, and the help on it is that on this
literal.  Nothing but commands is found, and for other words there is a text that says so.
The help command sends one text, on the command that is read after its word or on all
commands, and never the text for other words. -/
theorem command_read_is_found (linePrefix : String) (calls : List (Node Action)) :
    let dispatcher := Session.dispatcherAfter linePrefix calls
    let unavailable := fun name : String => "No help available for \"" ++ name ++ "\""
    (∀ name, ((dispatcher.find? name).isSome ↔ name ∈ dispatcher.commands) ∧
      (name ∉ dispatcher.commands → dispatcher.help (some name) = unavailable name)) ∧
    (∀ (type : TextType) context value, type.rule = some .commands →
      (type.read dispatcher.commands context).value? = some value →
        ∃ name node, value = .text name ∧ dispatcher.find? name = some node ∧
          node.literal? = some name ∧
          dispatcher.root.children.filter (fun other => other.literal? = some name) = [node] ∧
          dispatcher.help (some name) = node.help "" ∧
          ∀ other, dispatcher.help (some name) ≠ unavailable other) ∧
    ∀ front back input, dispatcher.root.children = front ++ helpCommand :: back →
      (Node.walkAny dispatcher.commands front (.start input)).verdict = .refused →
      (Context.start input).cursor.nextWord = "help".toList →
        ∃ named?, named? = (Context.start input).cursor.pastWord.nextText?.filter
            (· ∈ dispatcher.commands) ∧
          dispatcher.firedEffects (linePrefix ++ input) =
            [.send .output (dispatcher.help named?)] ∧
          ∀ other, dispatcher.help named? ≠ unavailable other := by
  intro dispatcher unavailable
  have hsound : dispatcher.Sound := Session.sound_dispatcherAfter linePrefix calls
  refine ⟨fun name => ⟨hsound.isSome_find?_iff, hsound.help_of_not_mem⟩, ?_, ?_⟩
  · intro type context value hrule hvalue
    obtain ⟨name, rfl, hadmits⟩ := TextType.exists_of_value? hvalue
    have hmem : name ∈ dispatcher.commands := hadmits.rule .commands hrule
    obtain ⟨node, hfind, hliteral, honly⟩ := hsound.exists_find? hmem
    refine ⟨name, node, rfl, hfind, hliteral, honly, Dispatcher.help_of_find? hfind, ?_⟩
    apply hsound.help_ne_unavailable
    rintro _ ⟨⟩
    exact hmem
  · intro front back input hchildren hfront hword
    have hinput : dispatcher.input? (linePrefix ++ input) = some input :=
      Session.input?_dispatcherAfter linePrefix input calls
    refine ⟨_, rfl, firedEffects_help hchildren hfront hinput hword, ?_⟩
    apply hsound.help_ne_unavailable
    intro name hname
    exact of_decide_eq_true (Option.filter_eq_some_iff.mp hname).2

/-- A number by itself. -/
def countNode : Node Action :=
  { kind := .argument "count" (.integer {}), action := some .none }

/-- A number, the help command, and one command more. -/
def countingCalls : List (Node Action) := [countNode, helpCommand, { kind := .literal "ping" }]

/-- The word of the command that was registered last is read and found, and the line that
asks for help on it is left to the help command. -/
theorem command_read_is_found_after_argument :
    let dispatcher := Session.dispatcherAfter "" countingCalls
    let type : TextType := { rule := some .commands, minLength := 2 }
    type.rule = some .commands ∧
    (type.read dispatcher.commands (.start " ping 1")).value? = some (.text "ping") ∧
    (∃ node, dispatcher.find? "ping" = some node ∧ dispatcher.help (some "ping") = node.help "") ∧
    dispatcher.firedEffects ("" ++ "help ping") =
      [.send .output (dispatcher.help (some "ping"))] := by
  intro dispatcher type
  have hvalue : (type.read dispatcher.commands (.start " ping 1")).value? =
      some (.text "ping") := by
    decide +kernel
  have hchildren : dispatcher.root.children =
      [countNode] ++ helpCommand :: [{ kind := .literal "ping" }] := rfl
  have hfront : (Node.walkAny dispatcher.commands [countNode]
      (.start "help ping")).verdict = .refused := rfl
  have hword : (Context.start "help ping").cursor.nextWord = "help".toList := by decide
  have hnamed : (Context.start "help ping").cursor.pastWord.nextText?.filter
      (· ∈ dispatcher.commands) = some "ping" := by
    decide +kernel
  obtain ⟨-, hread, hhelp⟩ := command_read_is_found "" countingCalls
  obtain ⟨name, node, hname, hfind, -, -, hsame, -⟩ := hread type _ _ rfl hvalue
  obtain rfl : "ping" = name := Value.text.inj hname
  obtain ⟨named?, heq, hsent, -⟩ := hhelp _ _ "help ping" hchildren hfront hword
  rw [heq, hnamed] at hsent
  exact ⟨rfl, hvalue, ⟨node, hfind, hsame⟩, hsent⟩

/-! ## Asking for help on a command -/

variable {token : String}

/-- The dispatcher of a shell on which more nodes were registered, whatever came of each. -/
def shellAfter (linePrefix : String) (config : Config) (calls : List (Node Action)) :
    Dispatcher Action :=
  (Session.registerEach { dispatcher := shell linePrefix config } calls).dispatcher

theorem sound_shell (linePrefix : String) (config : Config) :
    (shell linePrefix config).Sound := by
  rw [shell_eq]
  exact ⟨rfl, (by decide : ["help", "whoami", "socials"].Nodup),
    fun _ => isFit_of_mem_commands⟩

theorem inStep_shellAfter (linePrefix : String) (config : Config) (calls : List (Node Action)) :
    (Session.registerEach { dispatcher := shell linePrefix config } calls).InStep linePrefix
      .buffer := by
  have hinit : Session.InStep linePrefix .buffer { dispatcher := shell linePrefix config } :=
    ⟨sound_shell linePrefix config, by rw [shell_eq], rfl⟩
  exact hinit.registerEach calls

/-- The commands of the shell stay where they are. -/
theorem exists_registered_shellAfter (linePrefix : String) (config : Config)
    (calls : List (Node Action)) :
    ∃ later, (shellAfter linePrefix config calls).registered = commands config ++ later := by
  refine Session.registerEach_invariant
    (I := fun session => ∃ later, session.dispatcher.registered = commands config ++ later) ?_ ?_
    calls
  · rintro session node ⟨later, hlater⟩
    by_cases hadmits : session.dispatcher.Admits node
    · refine ⟨later ++ [node], ?_⟩
      rw [(Session.perform_register_of_admits hadmits).2, Dispatcher.extend, hlater,
        List.append_assoc]
    · obtain ⟨-, -, -, hsame⟩ := Session.perform_register_of_not_admits hadmits
      exact ⟨later, by rw [hsame, hlater]⟩
  · exact ⟨[], by rw [shell_eq, List.append_nil]⟩

/-- What the shell reads of a line that asks for help on a word. -/
theorem nextText?_helpLine (hword : IsWord token.toList) :
    (Context.start ("help " ++ token)).cursor.nextWord = "help".toList ∧
      (Context.start ("help " ++ token)).cursor.pastWord.nextText? =
        (Token.scan? token.toList).map fun token => String.ofList token.value :=
  Cursor.nextText?_pastWord String.toList_append (by decide) (by decide) hword

/-- The answer to such a line. -/
theorem run_helpLine (linePrefix : String) (config : Config) (calls : List (Node Action))
    (hword : IsWord token.toList) (depth : Nat) :
    let dispatcher := shellAfter linePrefix config calls
    let named? := (Token.scan? token.toList).map fun token => String.ofList token.value
    ∃ run, dispatcher.run depth (linePrefix ++ ("help " ++ token)) = some run ∧
      run.outcome = .executed ∧
      run.messages = complaint dispatcher.commands named? ++
        [⟨.output, dispatcher.help (named?.filter (· ∈ dispatcher.commands))⟩] := by
  intro dispatcher named?
  have hprefix : dispatcher.linePrefix = linePrefix :=
    (inStep_shellAfter linePrefix config calls).linePrefix_eq
  have hinput : dispatcher.input? (linePrefix ++ ("help " ++ token)) = some ("help " ++ token) := by
    rw [Dispatcher.input?_eq_some_iff, hprefix]
  obtain ⟨later, hregistered⟩ := exists_registered_shellAfter linePrefix config calls
  obtain ⟨hhelp, htext⟩ := nextText?_helpLine hword
  have hrun := run_of_help_registered hregistered hinput hhelp depth
  rwa [htext] at hrun

/-- In a shell with any further commands a line that asks for help on a command is executed.
It shows the help on that command and nothing else exactly if the command does not begin
with a double quote that is closed within it. -/
theorem command_help_shown_iff_not_isQuoted (linePrefix : String) (config : Config)
    (calls : List (Node Action)) {token : String}
    (htoken : token ∈ (shellAfter linePrefix config calls).commands) (depth : Nat) :
    let dispatcher := shellAfter linePrefix config calls
    ∃ run, dispatcher.run depth (linePrefix ++ ("help " ++ token)) = some run ∧
      run.outcome = .executed ∧
      (run.messages = [⟨.output, dispatcher.help (some token)⟩] ↔ ¬ IsQuoted token.toList) := by
  intro dispatcher
  have hsound : dispatcher.Sound := (inStep_shellAfter linePrefix config calls).sound
  obtain ⟨node, hnode, hliteral⟩ := hsound.mem_commands_iff.mp htoken
  obtain ⟨hne, hword⟩ := (hsound.fit node hnode).isWord hliteral
  obtain ⟨run, hrun, houtcome, hmessages⟩ := run_helpLine linePrefix config calls hword depth
  refine ⟨run, hrun, houtcome, ?_⟩
  rw [hmessages]
  obtain ⟨hopen, hclosed⟩ := Token.text_scan?_of_isWord hne hword
  by_cases hquoted : IsQuoted token.toList
  · obtain ⟨text, htext, hquoteless⟩ := hclosed hquoted
    have hresult : (dispatcher.help (some token)).toList.head? = some '"' := by
      rw [hsound.head?_help htoken, head?_of_isQuoted hquoted]
    have hne := answer_ne_of_quoteless (fun name => hsound.head?_help) hquoteless hresult
    rw [htext]
    exact iff_of_false hne (not_not_intro hquoted)
  · rw [hopen hquoted, complaint_of_mem htoken, Option.filter_some,
      if_pos (by simpa using htoken)]
    exact iff_of_true rfl hquoted

/-- Two commands with a pair of quotes, of which only the second begins with one. -/
def quotingCalls : List (Node Action) :=
  [{ kind := .literal "a\"b\"" }, { kind := .literal "\"a\"" }]

theorem command_help_shown_with_inner_quotes :
    let dispatcher := shellAfter "!" .default quotingCalls
    "a\"b\"" ∈ dispatcher.commands ∧
    ∃ run, dispatcher.run 0 ("!" ++ ("help " ++ "a\"b\"")) = some run ∧
      run.outcome = .executed ∧ run.messages = [⟨.output, "a\"b\"\n"⟩] := by
  intro dispatcher
  have htoken : "a\"b\"" ∈ dispatcher.commands := by decide +kernel
  have hhelp : dispatcher.help (some "a\"b\"") = "a\"b\"\n" := by decide +kernel
  obtain ⟨run, hrun, houtcome, hshown⟩ :=
    command_help_shown_iff_not_isQuoted "!" .default quotingCalls htoken 0
  exact ⟨htoken, run, hrun, houtcome, hhelp ▸ hshown.mpr (by decide)⟩

/-- The line that asks for help on the other command is answered by a diagnostic and the help
on all commands. -/
theorem quoted_command_is_read_without_quotes :
    let dispatcher := shellAfter "!" .default quotingCalls
    "\"a\"" ∈ dispatcher.commands ∧
    ∃ run, dispatcher.run 0 ("!" ++ ("help " ++ "\"a\"")) = some run ∧
      run.outcome = .executed ∧
      run.messages = [(Diagnostic.notInList (",".intercalate dispatcher.commands)).message,
        ⟨.output, dispatcher.help none⟩] ∧
      run.messages ≠ [⟨.output, dispatcher.help (some "\"a\"")⟩] := by
  intro dispatcher
  have htoken : "\"a\"" ∈ dispatcher.commands := by decide +kernel
  have hread : "a" ∉ dispatcher.commands := by decide +kernel
  have htext : (Token.scan? "\"a\"".toList).map (fun token => String.ofList token.value) =
      some "a" := by
    decide
  have hword : IsWord "\"a\"".toList := by decide
  obtain ⟨run, hrun, houtcome, hmessages⟩ := run_helpLine "!" .default quotingCalls hword 0
  rw [htext, complaint_of_not_mem hread, Option.filter_some, if_neg (by simpa using hread)]
    at hmessages
  exact ⟨htoken, run, hrun, houtcome, hmessages, by simp [hmessages]⟩

end CommandTree.Application
