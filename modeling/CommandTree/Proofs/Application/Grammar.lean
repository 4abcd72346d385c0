import CommandTree.Application
import CommandTree.Proofs.Dispatcher.Diagnostics
import CommandTree.Proofs.Dispatcher.Lookup

/-!
# The answers of a shell

A shell goes by the first word of a line and, for help and links, by the text that
follows it.  The rest of the line does not matter.
-/

namespace CommandTree.Application

variable {linePrefix input : String} {config : Config}

/-! ## The dispatcher of a shell -/

/-- A fresh dispatcher on which the commands of a shell were registered. -/
def shell (linePrefix : String) (config : Config) : Dispatcher Action :=
  (Dispatcher.registerAll { linePrefix } (commands config)).1

theorem isFit_of_mem_commands {node : Node Action} (hmem : node ∈ commands config) :
    node.IsFit := by
  simp only [commands, List.mem_cons, List.not_mem_nil, or_false] at hmem
  rcases hmem with rfl | rfl | rfl <;>
  · simp [Node.IsFit, Node.nodes, Node.nodesOfAll, NodeKind.IsFit, helpCommand,
      whoamiCommand, socialsCommand]
    decide

/-- Nothing is wrong with the commands of a shell, whatever its configuration. -/
theorem registerAll_commands (linePrefix : String) (config : Config) :
    Dispatcher.registerAll { linePrefix } (commands config) =
      ({ linePrefix
         registered := commands config
         commands := ["help", "whoami", "socials"] }, none) := by
  refine Dispatcher.registerAll_of_nodup (fun _ => isFit_of_mem_commands) ?_
  exact (by decide : ["help", "whoami", "socials"].Nodup)

theorem shell_eq (linePrefix : String) (config : Config) :
    shell linePrefix config =
      { linePrefix
        registered := commands config
        commands := ["help", "whoami", "socials"] } := by
  rw [shell, registerAll_commands]

theorem input?_shell (linePrefix input : String) (config : Config) :
    (shell linePrefix config).input? (linePrefix ++ input) = some input := by
  rw [Dispatcher.input?_eq_some_iff, shell_eq]

theorem explore_shell (linePrefix input : String) (config : Config) :
    (shell linePrefix config).explore input =
      Node.walkAny (shell linePrefix config).commands (commands config)
        (.start input) := by
  rw [Dispatcher.explore_eq, shell_eq]

theorem disciplined_shell (linePrefix : String) (config : Config) :
    (shell linePrefix config).root.AllTypes ArgumentType.Disciplined := by
  apply Dispatcher.allTypes_registerAll
  intro node hmem
  simp only [commands, List.mem_cons, List.not_mem_nil, or_false] at hmem
  rcases hmem with rfl | rfl | rfl <;>
    simp [Node.AllTypes, Node.nodes, Node.nodesOfAll, helpCommand, whoamiCommand,
      socialsCommand, ArgumentType.disciplined_text]

/-! ## The three commands -/

/-- The words of the three commands. -/
def words : List String := ["help", "whoami", "socials"]

theorem consume?_of_nextWord_eq {word : String} (hmem : word ∈ words)
    (hword : (Context.start input).cursor.nextWord = word.toList) :
    (Context.start input).cursor.consume? word =
      some (Context.start input).cursor.pastWord := by
  have hwords : ∀ word ∈ words, word ≠ "" ∧ Text.IsWord word.toList := by decide
  obtain ⟨hne, hblankless⟩ := hwords word hmem
  exact (Cursor.consume?_eq_some_iff hne hblankless).mpr ⟨hword, rfl⟩

/-- The commands whose words do not come next are passed over. -/
theorem isOtherWord_of_ne {node : Node Action} {token word : String}
    (hmem : node ∈ commands config) (hkind : node.kind = .literal token)
    (hne : token ≠ word) (hword : (Context.start input).cursor.nextWord = word.toList) :
    node.IsOtherWord (Context.start input).cursor := by
  refine ⟨isFit_of_mem_commands hmem, token, hkind, ?_⟩
  rw [hword]
  exact fun heq => hne (String.toList_inj.mp heq).symm

/-- A line is left to the command with its first word, if that command takes it. -/
theorem explore_of_nextWord_eq {front back : List (Node Action)} {node : Node Action}
    {word : String} {given : Option Action}
    (hcommands : commands config = front ++ node :: back)
    (hfront : ∀ other ∈ front, ∃ token, other.kind = .literal token ∧ token ≠ word)
    (hword : (Context.start input).cursor.nextWord = word.toList)
    (hverdict : (node.walk (shell linePrefix config).commands (.start input)).verdict =
      .accepted given) :
    (shell linePrefix config).explore input =
      node.walk (shell linePrefix config).commands (.start input) := by
  have hpassed : ∀ other ∈ front, other.IsOtherWord (Context.start input).cursor := by
    intro other hother
    obtain ⟨token, hkind, hne⟩ := hfront other hother
    have hmem : other ∈ commands config := hcommands ▸ List.mem_append_left _ hother
    exact isOtherWord_of_ne hmem hkind hne hword
  rw [explore_shell, hcommands, Node.walkAny_append_of_isOtherWord hpassed,
    Node.walkAny_cons_of_accepted hverdict]

/-- The answer of a command of the shell that looks something up. -/
theorem run_of_nextWord_eq {lookup : Lookup Action} {front back : List (Node Action)}
    {allowed : List String} {shown : String → String} {shownAll : String}
    (hcommands : commands config = front ++ lookup.node :: back)
    (hfront : ∀ other ∈ front, ∃ token, other.kind = .literal token ∧ token ≠ lookup.token)
    (hmem : lookup.token ∈ words)
    (hword : (Context.start input).cursor.nextWord = lookup.token.toList)
    (hlisted : lookup.type.IsListed (shell linePrefix config).commands allowed)
    (hone : ∀ context text, text ∈ allowed →
      context.bindings[lookup.argument]? = some (.text text) →
        lookup.one ((shell linePrefix config).scene context) =
          [.send .output (shown text)])
    (hall : ∀ context, lookup.all ((shell linePrefix config).scene context) =
      [.send .output shownAll]) (depth : Nat) :
    let named? := (Context.start input).cursor.pastWord.nextText?
    ∃ run, (shell linePrefix config).run depth (linePrefix ++ input) = some run ∧
      run.outcome = .executed ∧
      run.messages = complaint allowed named? ++
        [⟨.output, match named?.filter (· ∈ allowed) with
          | some text => shown text
          | none => shownAll⟩] := by
  have hconsume := consume?_of_nextWord_eq hmem hword
  obtain ⟨-, hverdict, -⟩ := Lookup.walk_node (shell linePrefix config).commands hconsume
  have hexplore := explore_of_nextWord_eq hcommands hfront hword hverdict
  exact Dispatcher.run_of_lookup (input?_shell linePrefix input config) hexplore hconsume
    hlisted hone hall depth

/-- The help command, which looks up the word of a command. -/
def helpLookup : Lookup Action :=
  { token := "help"
    description := "displays help about a command or all commands"
    argument := "command"
    argumentDescription := "the command to get help for"
    type := { rule := some .commands }
    one := .showHelpOn "command"
    all := .showHelp }

/-- Wherever the help command takes a line, it shows the help on the command that is named, or
on all commands if none is. -/
theorem walk_help (dispatcher : Dispatcher Action) {context : Context} {cursor : Cursor}
    (hconsume : context.cursor.consume? "help" = some cursor) :
    let walk := helpCommand.walk dispatcher.commands context
    let named? := cursor.nextText?
    walk.diagnostics.map Diagnostic.message = complaint dispatcher.commands named? ∧
      ∃ action, walk.verdict = .accepted (some action) ∧
        action (dispatcher.scene walk.context) =
          [.send .output (dispatcher.help (named?.filter (· ∈ dispatcher.commands)))] := by
  intro walk named?
  have hone : ∀ context text, text ∈ dispatcher.commands →
      context.bindings["command"]? = some (.text text) →
        Action.showHelpOn "command" (dispatcher.scene context) =
          [.send .output (dispatcher.help (some text))] := by
    intro context text _ hbound
    simp [Action.showHelpOn, Action.tell, Dispatcher.scene, Bindings.text?, hbound,
      Value.text?]
  have hall : ∀ context, Action.showHelp (dispatcher.scene context) =
      [.send .output (dispatcher.help none)] := fun _ => rfl
  have hlisted := TextType.isListed_commands dispatcher.commands
  have hconsume : context.cursor.consume? helpLookup.token = some cursor := hconsume
  obtain ⟨hdiagnostics, action, hverdict, hsent⟩ :=
    Dispatcher.walk_of_lookup hconsume hlisted hone hall
  refine ⟨hdiagnostics, action, hverdict, hsent.trans ?_⟩
  cases named?.filter (· ∈ dispatcher.commands) <;> rfl

/-- The answer to a line with the word of the help command, if that is registered first. -/
theorem run_of_help_registered {dispatcher : Dispatcher Action} {line : String}
    {later : List (Node Action)} (hregistered : dispatcher.registered = helpCommand :: later)
    (hinput : dispatcher.input? line = some input)
    (hword : (Context.start input).cursor.nextWord = "help".toList) (depth : Nat) :
    let named? := (Context.start input).cursor.pastWord.nextText?
    ∃ run, dispatcher.run depth line = some run ∧ run.outcome = .executed ∧
      run.messages = complaint dispatcher.commands named? ++
        [⟨.output, dispatcher.help (named?.filter (· ∈ dispatcher.commands))⟩] := by
  intro named?
  obtain ⟨hdiagnostics, action, hverdict, hsent⟩ :=
    walk_help dispatcher (consume?_of_nextWord_eq (by decide) hword)
  have hexplore : dispatcher.explore input =
      helpCommand.walk dispatcher.commands (.start input) := by
    rw [Dispatcher.explore_eq, hregistered, Node.walkAny_cons_of_accepted hverdict]
  rw [← hexplore] at hdiagnostics hverdict hsent
  rw [← hdiagnostics]
  exact Dispatcher.run_of_sent hinput hverdict hsent depth

theorem run_help (linePrefix : String) (config : Config)
    (hword : (Context.start input).cursor.nextWord = "help".toList) (depth : Nat) :
    let shell := shell linePrefix config
    let named? := (Context.start input).cursor.pastWord.nextText?
    ∃ run, shell.run depth (linePrefix ++ input) = some run ∧ run.outcome = .executed ∧
      run.messages = complaint shell.commands named? ++
        [⟨.output, shell.help (named?.filter (· ∈ shell.commands))⟩] := by
  have hregistered : (shell linePrefix config).registered =
      helpCommand :: [whoamiCommand config.about, socialsCommand config.links] := by
    rw [shell_eq]
    rfl
  exact run_of_help_registered hregistered (input?_shell linePrefix input config) hword depth

theorem run_whoami (linePrefix : String) (config : Config)
    (hword : (Context.start input).cursor.nextWord = "whoami".toList) (depth : Nat) :
    ∃ run, (shell linePrefix config).run depth (linePrefix ++ input) = some run ∧
      run.outcome = .executed ∧ run.messages = [⟨.output, config.about⟩] := by
  have hcommands : commands config = [helpCommand] ++ whoamiCommand config.about ::
      [socialsCommand config.links] := rfl
  have hconsume := consume?_of_nextWord_eq (by decide) hword
  obtain ⟨hverdict, hdiagnostics⟩ :=
    Node.walk_of_children_eq_nil (shell linePrefix config).commands
      (whoamiCommand config.about) rfl rfl rfl hconsume
  have hexplore :=
    explore_of_nextWord_eq hcommands (by simp [helpCommand]) hword hverdict
  rw [← hexplore] at hverdict hdiagnostics
  have hsent : Action.say .output config.about ((shell linePrefix config).scene
      ((shell linePrefix config).explore input).context) =
        [.send .output config.about] := rfl
  have hrun := Dispatcher.run_of_sent (input?_shell linePrefix input config) hverdict
    hsent depth
  rwa [hdiagnostics] at hrun

/-- The first link of a given name, if there is one. -/
def linkNamed? (links : List Link) (name : String) : Option Link :=
  links.find? fun link => link.name = name

theorem linkNamed?_eq_none_iff {links : List Link} {name : String} :
    linkNamed? links name = none ↔ name ∉ links.map Link.name := by
  simp [linkNamed?, List.find?_eq_none]

theorem exists_linkNamed? {links : List Link} {name : String}
    (hmem : name ∈ links.map Link.name) : ∃ link, linkNamed? links name = some link := by
  apply Option.ne_none_iff_exists'.mp
  intro hnone
  exact linkNamed?_eq_none_iff.mp hnone hmem

theorem linkNamed?_eq_some {links : List Link} {name : String} {link : Link}
    (hlink : linkNamed? links name = some link) : link ∈ links ∧ link.name = name := by
  rw [linkNamed?] at hlink
  exact ⟨List.mem_of_find?_eq_some hlink, by simpa using List.find?_some hlink⟩

/-- The text of the link that is named, or else of all links. -/
def showNamed (links : List Link) (named? : Option String) : String :=
  match named?.bind (linkNamed? links) with
  | some link => showLink link
  | none => showLinks links

theorem showNamed_some {links : List Link} {name : String} {link : Link}
    (hlink : linkNamed? links name = some link) :
    showNamed links (some name) = showLink link := by
  simp [showNamed, hlink]

/-- Only the names of links count. -/
theorem showNamed_filter (links : List Link) (named? : Option String) :
    showNamed links (named?.filter (· ∈ links.map Link.name)) = showNamed links named? := by
  cases named? with
  | none => rfl
  | some name =>
      by_cases hmem : name ∈ links.map Link.name
      · rw [Option.filter_some, if_pos (decide_eq_true hmem)]
      · rw [Option.filter_some, if_neg (by simpa using hmem)]
        simp [showNamed, linkNamed?_eq_none_iff.mpr hmem]

/-- The command for links, which looks up the name of one. -/
def linkLookup (links : List Link) : Lookup Action :=
  { token := "socials"
    description := "Lists the socials i have"
    argument := "social"
    argumentDescription := "the social you want to see"
    type := { rule := some (.list (links.map Link.name)) }
    one := linkAction links "social"
    all := .say .output (showLinks links) }

theorem run_socials (linePrefix : String) (config : Config)
    (hword : (Context.start input).cursor.nextWord = "socials".toList) (depth : Nat) :
    let named? := (Context.start input).cursor.pastWord.nextText?
    ∃ run, (shell linePrefix config).run depth (linePrefix ++ input) = some run ∧
      run.outcome = .executed ∧
      run.messages = complaint (config.links.map Link.name) named? ++
        [⟨.output, showNamed config.links named?⟩] := by
  intro named?
  have hcommands : commands config = [helpCommand, whoamiCommand config.about] ++
      (linkLookup config.links).node :: [] := rfl
  have hfront : ∀ other ∈ [helpCommand, whoamiCommand config.about],
      ∃ token, other.kind = .literal token ∧ token ≠ "socials" := by
    simp [helpCommand, whoamiCommand]
  have hone : ∀ context name, name ∈ config.links.map Link.name →
      context.bindings["social"]? = some (.text name) →
        linkAction config.links "social" ((shell linePrefix config).scene context) =
          [.send .output (showNamed config.links (some name))] := by
    intro context name hmem hbound
    obtain ⟨link, hlink⟩ := exists_linkNamed? hmem
    have hfind : config.links.find? (fun link => link.name = name) = some link := hlink
    simp [linkAction, Dispatcher.scene, Bindings.text?, hbound, Value.text?, hfind,
      showNamed_some hlink]
  have hall : ∀ context, Action.say .output (showLinks config.links)
      ((shell linePrefix config).scene context) =
        [.send .output (showLinks config.links)] := fun _ => rfl
  have hlisted := TextType.isListed_list (shell linePrefix config).commands
    (config.links.map Link.name)
  obtain ⟨run, hrun, houtcome, hmessages⟩ := run_of_nextWord_eq hcommands hfront
    (by decide : "socials" ∈ words) hword hlisted hone hall depth
  refine ⟨run, hrun, houtcome, hmessages.trans ?_⟩
  rw [← showNamed_filter config.links named?]
  cases named?.filter (· ∈ config.links.map Link.name) <;> rfl

/-- A line that begins with no command is not found, and nothing else is said of it. -/
theorem run_other (linePrefix : String) (config : Config)
    (hword : ∀ word ∈ words, (Context.start input).cursor.nextWord ≠ word.toList)
    (depth : Nat) :
    ∃ run, (shell linePrefix config).run depth (linePrefix ++ input) = some run ∧
      run.outcome = .notFound ∧ run.messages = [(Diagnostic.notFound input).message] := by
  have hpassed : ∀ node ∈ commands config,
      node.IsOtherWord (Context.start input).cursor := by
    intro node hmem
    refine ⟨isFit_of_mem_commands hmem, ?_⟩
    simp only [commands, List.mem_cons, List.not_mem_nil, or_false] at hmem
    rcases hmem with rfl | rfl | rfl
    · exact ⟨"help", rfl, hword "help" (by decide)⟩
    · exact ⟨"whoami", rfl, hword "whoami" (by decide)⟩
    · exact ⟨"socials", rfl, hword "socials" (by decide)⟩
  have hexplore : (shell linePrefix config).explore input =
      .refused [] (.start input) := by
    rw [explore_shell, Node.walkAny_of_isOtherWord hpassed]
  have hverdict : ((shell linePrefix config).explore input).verdict = .refused := by
    rw [hexplore]
    rfl
  have htypes := disciplined_shell linePrefix config
  have hrefusals : (shell linePrefix config).refusals input = [] := by
    have hdiagnostics := Node.diagnostics_of_walk_refused htypes rfl hverdict
    exact hdiagnostics.symm.trans (congrArg Walk.diagnostics hexplore)
  have hrun := Dispatcher.run_of_refused htypes (input?_shell linePrefix input config)
    hverdict depth
  rwa [hrefusals] at hrun

/-- No command of a shell asks for further lines. -/
theorem exists_run_zero (linePrefix line : String) (config : Config) :
    ∃ run, (shell linePrefix config).run 0 line = some run := by
  cases hinput : (shell linePrefix config).input? line with
  | none =>
      have hrespond := Dispatcher.respond_of_ignored hinput
      exact ⟨_, Dispatcher.run_of_notices (by simp [hrespond]) 0⟩
  | some input =>
      have hline : line = linePrefix ++ input := by
        rw [Dispatcher.input?_eq_some_iff.mp hinput, shell_eq]
      subst hline
      by_cases hword : ∃ word ∈ words, (Context.start input).cursor.nextWord = word.toList
      · obtain ⟨word, hmem, hword⟩ := hword
        simp only [words, List.mem_cons, List.not_mem_nil, or_false] at hmem
        rcases hmem with rfl | rfl | rfl
        · obtain ⟨run, hrun, -⟩ := run_help linePrefix config hword 0
          exact ⟨run, hrun⟩
        · obtain ⟨run, hrun, -⟩ := run_whoami linePrefix config hword 0
          exact ⟨run, hrun⟩
        · obtain ⟨run, hrun, -⟩ := run_socials linePrefix config hword 0
          exact ⟨run, hrun⟩
      · have hother : ∀ word ∈ words,
            (Context.start input).cursor.nextWord ≠ word.toList :=
          fun word hmem heq => hword ⟨word, hmem, heq⟩
        obtain ⟨run, hrun, -⟩ := run_other linePrefix config hother 0
        exact ⟨run, hrun⟩

/-- The answer to every line with the line prefix.  The first word decides whether the
line is taken.  What is shown comes last and is one text: about the owner, the help on
the command that is named, or the link that is named, and without a name that is known
the help on all commands or all links.  A name that is not known is reported first. -/
theorem answer_to_every_line (config : Config) (linePrefix input : String) (depth : Nat) :
    let shell := shell linePrefix config
    let start := Cursor.start input.toList
    let word := String.ofList start.nextWord
    let named? := start.pastWord.nextText?
    (Dispatcher.registerAll { linePrefix } (commands config)).2 = none ∧
    shell.commands = ["help", "whoami", "socials"] ∧
    ∃ run, shell.run depth (linePrefix ++ input) = some run ∧
      (run.outcome = .executed ↔ word ∈ ["help", "whoami", "socials"]) ∧
      (run.outcome ≠ .executed →
        run.outcome = .notFound ∧ run.messages = [(Diagnostic.notFound input).message]) ∧
      (word = "whoami" → run.messages = [⟨.output, config.about⟩]) ∧
      (word = "help" →
        run.messages = complaint shell.commands named? ++
          [⟨.output, shell.help (named?.filter (· ∈ shell.commands))⟩]) ∧
      (word = "socials" →
        run.messages = complaint (config.links.map Link.name) named? ++
          [⟨.output,
            match named?.bind (linkNamed? config.links) with
            | some link => link.name ++ ": " ++ link.url
            | none => "\n".intercalate
                (config.links.map fun link => link.name ++ ": " ++ link.url)⟩]) := by
  intro shell start word named?
  refine ⟨by rw [registerAll_commands], by simp only [shell, shell_eq], ?_⟩
  have hnext : ∀ token : String, word = token ↔
      (Context.start input).cursor.nextWord = token.toList := by
    intro token
    rw [← String.toList_inj, String.toList_ofList]
    rfl
  by_cases hmem : word ∈ ["help", "whoami", "socials"]
  · have hcases : word = "help" ∨ word = "whoami" ∨ word = "socials" := by
      simpa using hmem
    rcases hcases with hword | hword | hword
    · obtain ⟨run, hrun, houtcome, hmessages⟩ :=
        run_help linePrefix config ((hnext _).mp hword) depth
      exact ⟨run, hrun, by simp [houtcome, hmem], by simp [houtcome], by simp [hword],
        fun _ => hmessages, by simp [hword]⟩
    · obtain ⟨run, hrun, houtcome, hmessages⟩ :=
        run_whoami linePrefix config ((hnext _).mp hword) depth
      exact ⟨run, hrun, by simp [houtcome, hmem], by simp [houtcome], fun _ => hmessages,
        by simp [hword], by simp [hword]⟩
    · obtain ⟨run, hrun, houtcome, hmessages⟩ :=
        run_socials linePrefix config ((hnext _).mp hword) depth
      exact ⟨run, hrun, by simp [houtcome, hmem], by simp [houtcome], by simp [hword],
        by simp [hword], fun _ => hmessages⟩
  · have hother : ∀ token ∈ words, (Context.start input).cursor.nextWord ≠ token.toList := by
      intro token htoken hword
      exact hmem ((hnext token).mpr hword ▸ htoken)
    obtain ⟨run, hrun, houtcome, hmessages⟩ := run_other linePrefix config hother depth
    have hne : ∀ token ∈ words, word ≠ token := by
      rintro token htoken rfl
      exact hmem htoken
    exact ⟨run, hrun, by simp [houtcome, hmem], fun _ => ⟨houtcome, hmessages⟩,
      fun hword => absurd hword (hne _ (by decide)),
      fun hword => absurd hword (hne _ (by decide)),
      fun hword => absurd hword (hne _ (by decide))⟩

end CommandTree.Application
