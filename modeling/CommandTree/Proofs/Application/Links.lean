import CommandTree.Proofs.Application.Grammar
import CommandTree.Proofs.Argument.Token
import CommandTree.Proofs.Config.Links

/-!
# Naming a link in a line

The name of an accepted link is a word, and a word is read back as it stands unless it
begins with a double quote that is closed within it.  Such a link is accepted, but a line
with its name does not show it.
-/

namespace CommandTree.Application

open Text

variable {config : Config} {link : Link} {name : String}

/-! ## The line that names a link -/

/-- A line that asks for the link of a given name. -/
def linkLine (name : String) : String := "socials " ++ name

/-- What the shell reads of such a line: the command, and then the name. -/
theorem nextText?_linkLine (hnamed : link.IsNamed) :
    (Context.start (linkLine link.name)).cursor.nextWord = "socials".toList ∧
      (Context.start (linkLine link.name)).cursor.pastWord.nextText? =
        (Token.scan? link.name.toList).map fun token => String.ofList token.value :=
  Cursor.nextText?_pastWord String.toList_append (by decide) (by decide) hnamed.2

theorem run_linkLine (linePrefix : String) (config : Config) (hnamed : link.IsNamed)
    (depth : Nat) :
    let named? := (Token.scan? link.name.toList).map fun token => String.ofList token.value
    ∃ run, (shell linePrefix config).run depth (linePrefix ++ linkLine link.name) = some run ∧
      run.outcome = .executed ∧
      run.messages = complaint (config.links.map Link.name) named? ++
        [⟨.output, showNamed config.links named?⟩] := by
  intro named?
  obtain ⟨hword, htext⟩ := nextText?_linkLine hnamed
  have hrun := run_socials linePrefix config hword depth
  rwa [htext] at hrun

/-! ## Names with and without quotes -/

theorem linkNamed?_of_mem {links : List Link} (hnodup : (links.map Link.name).Nodup)
    (hmem : link ∈ links) : linkNamed? links link.name = some link := by
  induction links with
  | nil => cases hmem
  | cons first rest ih =>
      rw [List.map_cons, List.nodup_cons] at hnodup
      rcases List.mem_cons.mp hmem with rfl | hrest
      · simp [linkNamed?]
      · have hne : first.name ≠ link.name := by
          intro heq
          exact hnodup.1 (heq ▸ List.mem_map_of_mem hrest)
        have hlater := ih hnodup.2 hrest
        rw [linkNamed?] at hlater
        simp [linkNamed?, hne, hlater]

theorem head?_showLink (hnamed : link.IsNamed) :
    (showLink link).toList.head? = link.name.toList.head? := by
  obtain ⟨c, rest, hchars⟩ := List.exists_cons_of_ne_nil hnamed.toList_ne_nil
  simp [showLink, hchars]

/-- A text without quotes does not lead to the link whose name is quoted: either it is the
name of no link, or of one that looks different. -/
theorem answer_ne_of_isQuoted (hnames : ∀ link ∈ config.links, link.IsNamed)
    (hlink : link ∈ config.links) (hquoted : IsQuoted link.name.toList)
    (hquoteless : '"' ∉ name.toList) :
    complaint (config.links.map Link.name) (some name) ++
      [⟨.output, showNamed config.links (some name)⟩] ≠ [⟨.output, showLink link⟩] := by
  have hhead : ∀ name ∈ config.links.map Link.name,
      (showNamed config.links (some name)).toList.head? = name.toList.head? := by
    intro name hname
    obtain ⟨other, hother⟩ := exists_linkNamed? hname
    obtain ⟨hmem, rfl⟩ := linkNamed?_eq_some hother
    rw [showNamed_some hother, head?_showLink (hnames other hmem)]
  have hresult : (showLink link).toList.head? = some '"' := by
    rw [head?_showLink (hnames link hlink), head?_of_isQuoted hquoted]
  rw [← showNamed_filter config.links (some name)]
  exact answer_ne_of_quoteless hhead hquoteless hresult

/-- A link that was accepted is shown by a line with its name, and nothing else is,
exactly if the name does not begin with a double quote that is closed within it. -/
theorem accepted_link_shown_iff_not_isQuoted (hvalid : config.validate = .ok config)
    (hlink : link ∈ config.links) (linePrefix : String) (depth : Nat) :
    ∃ run, (shell linePrefix config).run depth (linePrefix ++ linkLine link.name) = some run ∧
      run.outcome = .executed ∧
      (run.messages = [⟨.output, link.name ++ ": " ++ link.url⟩] ↔
        ¬ IsQuoted link.name.toList) := by
  obtain ⟨hnames, hnodup⟩ := Config.validate_eq_ok_iff.mp hvalid
  have hnamed := hnames link hlink
  obtain ⟨run, hrun, houtcome, hmessages⟩ := run_linkLine linePrefix config hnamed depth
  refine ⟨run, hrun, houtcome, ?_⟩
  rw [hmessages]
  by_cases hquoted : IsQuoted link.name.toList
  · obtain ⟨token, hscan⟩ := Token.exists_scan? hnamed.toList_ne_nil
    have hquoteless : '"' ∉ (String.ofList token.value).toList := by
      rw [String.toList_ofList]
      exact Token.quote_not_mem_value_scan? hquoted (congrArg (Option.map Token.value) hscan)
    have hne := answer_ne_of_isQuoted hnames hlink hquoted hquoteless
    rw [hscan, Option.map_some]
    exact iff_of_false hne (not_not_intro hquoted)
  · have hread : (Token.scan? link.name.toList).map (fun token => String.ofList token.value) =
        some link.name := by
      have hvalue := Token.value_scan?_of_isWord hnamed.toList_ne_nil hnamed.2 hquoted
      simpa [Function.comp_def] using congrArg (Option.map String.ofList) hvalue
    have hmem : link.name ∈ config.links.map Link.name := List.mem_map_of_mem hlink
    rw [hread, complaint_of_mem hmem, showNamed_some (linkNamed?_of_mem hnodup hlink)]
    exact iff_of_true rfl hquoted

/-- Two links, of which the name of the first holds a pair of quotes. -/
def quotedLinks : Config := { links := [⟨"\"a\"b", "u"⟩, ⟨"c", "v"⟩] }

/-- The links are accepted.  A line with the name of the second shows it and a line with
the name of the first does not. -/
theorem accepted_link_shown_or_quoted :
    quotedLinks.validate = .ok quotedLinks ∧
    (∃ run, (shell "" quotedLinks).run 1 ("" ++ linkLine "c") = some run ∧
      run.outcome = .executed ∧ run.messages = [⟨.output, "c: v"⟩]) ∧
    ∃ run, (shell "" quotedLinks).run 1 ("" ++ linkLine "\"a\"b") = some run ∧
      run.outcome = .executed ∧ run.messages ≠ [⟨.output, "\"a\"b: u"⟩] := by
  have hvalid : quotedLinks.validate = .ok quotedLinks := rfl
  have hplain : ⟨"c", "v"⟩ ∈ quotedLinks.links := by decide
  have hquoted : ⟨"\"a\"b", "u"⟩ ∈ quotedLinks.links := by decide
  refine ⟨hvalid, ?_, ?_⟩
  · obtain ⟨run, hrun, houtcome, hmessages⟩ :=
      accepted_link_shown_iff_not_isQuoted hvalid hplain "" 1
    exact ⟨run, hrun, houtcome, hmessages.mpr (by decide)⟩
  · obtain ⟨run, hrun, houtcome, hmessages⟩ :=
      accepted_link_shown_iff_not_isQuoted hvalid hquoted "" 1
    exact ⟨run, hrun, houtcome, fun heq => hmessages.mp heq (by decide)⟩

/-- The link with the quotes is accepted, and the line with its name is answered by a
diagnostic and all links. -/
theorem quoted_name_is_read_as_another :
    quotedLinks.validate = .ok quotedLinks ∧ ⟨"\"a\"b", "u"⟩ ∈ quotedLinks.links ∧
    ∃ run, (shell "" quotedLinks).run 1 ("" ++ linkLine "\"a\"b") = some run ∧
      run.outcome = .executed ∧
      run.messages = [(Diagnostic.notInList "\"a\"b,c").message,
        ⟨.output, "\"a\"b: u\nc: v"⟩] := by
  refine ⟨rfl, by decide, ?_⟩
  have hnamed : Link.IsNamed ⟨"\"a\"b", "u"⟩ := ⟨by decide, by decide⟩
  obtain ⟨run, hrun, houtcome, hmessages⟩ := run_linkLine "" quotedLinks hnamed 1
  exact ⟨run, hrun, houtcome, hmessages⟩

end CommandTree.Application
