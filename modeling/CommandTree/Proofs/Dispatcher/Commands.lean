import CommandTree.Proofs.Dispatcher.Registration
import CommandTree.Proofs.Dispatcher.Response
import CommandTree.Proofs.Node.Help
import CommandTree.Proofs.Node.Lookup
import Mathlib.Data.List.Nodup

/-!
# The registered commands

In a sound dispatcher each command is the word of one registered literal and of no other, so
looking a command up finds that literal.  The help on it is made up of whole lines, which the
text for a word that is no command is not.  If all registered trees are literals, the help on
everything is the help on one command after the other.

A line that consists of a command is taken, whatever was registered before and after it: a
tree that does not take the line hands it on as it was, and at the end of a line a literal
needs nothing below it.
-/

namespace CommandTree

open Text

namespace Dispatcher

variable {α : Type} {dispatcher : Dispatcher α} {front back : List (Node α)}
  {node found : Node α} {token name blanks : String}

/-! ## The literal with a word -/

theorem Sound.mem_commands_iff (h : dispatcher.Sound) :
    token ∈ dispatcher.commands ↔
      ∃ node ∈ dispatcher.registered, node.literal? = some token := by
  rw [h.commands_eq, List.mem_filterMap]
  rfl

/-- A command is the word of one registered literal and of no other. -/
theorem Sound.exists_literal (h : dispatcher.Sound) (hmem : token ∈ dispatcher.commands) :
    ∃ front node back, dispatcher.registered = front ++ node :: back ∧
      node.literal? = some token ∧ ∀ other ∈ front ++ back, other.literal? ≠ some token := by
  obtain ⟨node, hnode, htoken⟩ := h.mem_commands_iff.mp hmem
  obtain ⟨front, back, hregistered⟩ := List.append_of_mem hnode
  refine ⟨front, node, back, hregistered, htoken, ?_⟩
  have hcommands : dispatcher.commands =
      front.filterMap Node.literal? ++ token :: back.filterMap Node.literal? := by
    have hsplit := congrArg (List.filterMap Node.literal?) hregistered
    rw [List.filterMap_append, List.filterMap_cons_some htoken] at hsplit
    exact h.commands_eq.trans hsplit
  have hnodup := h.nodup
  rw [hcommands, List.nodup_middle, List.nodup_cons, ← List.filterMap_append] at hnodup
  intro other hother hsame
  exact hnodup.1 (List.mem_filterMap.mpr ⟨other, hother, hsame⟩)

theorem find?_eq_some_of_split (hregistered : dispatcher.registered = front ++ node :: back)
    (htoken : node.literal? = some token) (hfront : ∀ other ∈ front, other.literal? ≠ some token) :
    dispatcher.find? token = some node := by
  rw [find?, List.find?_eq_some_iff_append]
  refine ⟨by simpa using htoken, front, back, hregistered, ?_⟩
  intro other hother
  simpa using hfront other hother

/-- A word is looked up with success exactly if it is a command. -/
theorem Sound.isSome_find?_iff (h : dispatcher.Sound) :
    (dispatcher.find? name).isSome ↔ name ∈ dispatcher.commands := by
  rw [find?, List.find?_isSome, h.mem_commands_iff]
  simp

/-- What is found for a command is the only literal with its word. -/
theorem Sound.exists_find? (h : dispatcher.Sound) (hmem : name ∈ dispatcher.commands) :
    ∃ node, dispatcher.find? name = some node ∧ node.literal? = some name ∧
      dispatcher.root.children.filter (fun other => other.literal? = some name) = [node] := by
  obtain ⟨front, node, back, hregistered, htoken, hothers⟩ := h.exists_literal hmem
  have hfind := find?_eq_some_of_split hregistered htoken fun other hother =>
    hothers other (List.mem_append_left back hother)
  refine ⟨node, hfind, htoken, ?_⟩
  have hnone : ∀ trees ⊆ front ++ back,
      trees.filter (fun other => other.literal? = some name) = [] := by
    intro trees hsubset
    rw [List.filter_eq_nil_iff]
    intro other hother
    simpa using hothers other (hsubset hother)
  have hchildren : dispatcher.root.children = front ++ node :: back := hregistered
  rw [hchildren, List.filter_append, List.filter_cons_of_pos (by simpa using htoken),
    hnone front (List.subset_append_left front back),
    hnone back (List.subset_append_right front back)]
  rfl

/-- Looking up the word of a registered literal finds that literal. -/
theorem Sound.find?_of_literal? (h : dispatcher.Sound) (hnode : node ∈ dispatcher.root.children)
    (htoken : node.literal? = some token) : dispatcher.find? token = some node := by
  have hmem := h.mem_commands_iff.mpr ⟨node, hnode, htoken⟩
  obtain ⟨only, hfind, -, honly⟩ := h.exists_find? hmem
  have hnode : node ∈ dispatcher.root.children.filter (fun other => other.literal? = some token) :=
    List.mem_filter.mpr ⟨hnode, by simpa using htoken⟩
  rw [honly, List.mem_singleton] at hnode
  rw [hnode, hfind]

/-- What is found for a word goes on being found. -/
theorem find?_extend_of_eq_some (hfind : dispatcher.find? token = some found) (node : Node α) :
    (dispatcher.extend node).find? token = some found := by
  rw [find?] at hfind
  rw [find?, extend, List.find?_append, hfind]
  rfl

/-! ## The help on a command -/

theorem help_of_find? (hfind : dispatcher.find? name = some node) :
    dispatcher.help (some name) = node.help "" := by
  rw [help, hfind]

/-- The help on a command begins with the command. -/
theorem Sound.head?_help (h : dispatcher.Sound) (hmem : name ∈ dispatcher.commands) :
    (dispatcher.help (some name)).toList.head? = name.toList.head? := by
  obtain ⟨node, hfind, hliteral, -⟩ := h.exists_find? hmem
  have hfit := h.fit node (List.mem_of_find?_eq_some hfind)
  rw [help_of_find? hfind, Node.head?_help hliteral (hfit.isWord hliteral).1]

theorem Sound.help_of_not_mem (h : dispatcher.Sound) (hnew : name ∉ dispatcher.commands) :
    dispatcher.help (some name) = "No help available for \"" ++ name ++ "\"" := by
  have hnone : dispatcher.find? name = none :=
    Option.not_isSome_iff_eq_none.mp (mt h.isSome_find?_iff.mp hnew)
  rw [help, hnone]

/-- The help on commands is never the text for a word that is no command. -/
theorem Sound.help_ne_unavailable (h : dispatcher.Sound) {named? : Option String}
    (hnamed : ∀ name ∈ named?, name ∈ dispatcher.commands) (other : String) :
    dispatcher.help named? ≠ "No help available for \"" ++ other ++ "\"" := by
  have hends : Node.EndsLine (dispatcher.help named?) := by
    cases named? with
    | none => exact dispatcher.root.endsLine_help ""
    | some name =>
        obtain ⟨node, hfind, -⟩ := h.exists_find? (hnamed name rfl)
        rw [help_of_find? hfind]
        exact node.endsLine_help ""
  intro heq
  have hlast : (dispatcher.help named?).toList.getLast? = some '"' := by
    rw [heq, String.toList_append, List.getLast?_append]
    rfl
  have hquote := hends '"' hlast
  simp at hquote

/-! ## The help on everything -/

theorem help_none_eq_join (dispatcher : Dispatcher α) :
    dispatcher.help none = String.join (dispatcher.root.children.map (Node.help "")) :=
  Node.help_of_root rfl ""

/-- The help on the commands makes up the help on everything if all trees are literals. -/
theorem Sound.help_none_eq_join_commands (h : dispatcher.Sound)
    (hliterals : ∀ node ∈ dispatcher.root.children, node.literal?.isSome) :
    dispatcher.help none =
      String.join (dispatcher.commands.map fun token => dispatcher.help (some token)) := by
  have hpiece : ∀ node ∈ dispatcher.root.children,
      node.literal?.map (fun token => dispatcher.help (some token)) = some (node.help "") := by
    intro node hnode
    obtain ⟨token, htoken⟩ := Option.isSome_iff_exists.mp (hliterals node hnode)
    rw [htoken, Option.map_some, help_of_find? (h.find?_of_literal? hnode htoken)]
  have hpieces : dispatcher.commands.map (fun token => dispatcher.help (some token)) =
      dispatcher.root.children.map (Node.help "") := by
    rw [h.commands_eq, List.map_filterMap, List.filterMap_congr hpiece, List.filterMap_eq_map']
  rw [hpieces, help_none_eq_join]

/-- A registered tree adds its help at the end. -/
theorem help_none_extend (dispatcher : Dispatcher α) (node : Node α) :
    (dispatcher.extend node).help none = dispatcher.help none ++ node.help "" := by
  have hchildren : (dispatcher.extend node).root.children =
      dispatcher.root.children ++ [node] := rfl
  rw [help_none_eq_join, help_none_eq_join, hchildren, List.map_append, String.join_append]
  simp

/-! ## Lines that consist of a command -/

/-- The word of a fit literal is what comes next where a line ends with it. -/
theorem consume?_start (hfit : node.IsFit) (htoken : node.literal? = some token)
    (hblanks : ∀ c ∈ blanks.toList, isBlank c = true) :
    let start := Cursor.start (blanks ++ token).toList
    start.nextWord = token.toList ∧ start.consume? token = some start.toEnd := by
  obtain ⟨hne, hword⟩ := hfit.isWord htoken
  exact Cursor.consume?_eq_toEnd String.toList_append hblanks hne hword

/-- A line with a command is taken. -/
theorem explore_command_accepted (hregistered : dispatcher.registered = front ++ node :: back)
    (hfit : node.IsFit) (htoken : node.literal? = some token)
    (hblanks : ∀ c ∈ blanks.toList, isBlank c = true) :
    ∃ given, (dispatcher.explore (blanks ++ token)).verdict = .accepted given := by
  rw [explore_eq, hregistered]
  cases hfront : (Node.walkAny dispatcher.commands front (.start (blanks ++ token))).verdict with
  | accepted given => exact ⟨given, by rw [Node.walkAny_append_of_accepted hfront, hfront]⟩
  | refused =>
      -- Those before the command leave the cursor at the start of the line.
      obtain ⟨-, hconsume⟩ := consume?_start hfit htoken hblanks
      have hcursor : (Node.walkAny dispatcher.commands front
          (.start (blanks ++ token))).context.cursor = Cursor.start (blanks ++ token).toList :=
        Node.cursor_of_walkAny_refused hfront
      rw [← hcursor] at hconsume
      have hnode := Node.walk_of_atEnd dispatcher.commands _
        (Node.literal?_eq_some_iff.mp htoken) hconsume rfl
      refine ⟨node.action, ?_⟩
      rw [Node.walkAny_append_of_refused hfront, Walk.verdict_after,
        Node.walkAny_cons_of_accepted (congrArg Walk.verdict hnode), hnode]
      rfl

/-- A line with a command goes straight to it if only literals come before. -/
theorem explore_command_of_literals (hregistered : dispatcher.registered = front ++ node :: back)
    (hfit : ∀ other ∈ dispatcher.registered, other.IsFit) (htoken : node.literal? = some token)
    (hfront : ∀ other ∈ front, other.literal?.isSome ∧ other.literal? ≠ some token)
    (hblanks : ∀ c ∈ blanks.toList, isBlank c = true) :
    dispatcher.explore (blanks ++ token) =
      (Walk.accepted node.action ⟨⟨(blanks ++ token).toList, []⟩, ∅⟩).after
        [.consumed token 0] := by
  have hnode : node.IsFit := hfit node (by simp [hregistered])
  obtain ⟨hnext, hconsume⟩ := consume?_start hnode htoken hblanks
  have hpassed : ∀ other ∈ front, other.IsOtherWord (Context.start (blanks ++ token)).cursor := by
    intro other hother
    obtain ⟨hliteral, hne⟩ := hfront other hother
    obtain ⟨word, hword⟩ := Option.isSome_iff_exists.mp hliteral
    refine ⟨hfit other (by simp [hregistered, hother]), word,
      Node.literal?_eq_some_iff.mp hword, ?_⟩
    intro heq
    have hsame : token = word := String.toList_inj.mp (hnext.symm.trans heq)
    exact hne (hsame ▸ hword)
  have hwalk := Node.walk_of_atEnd dispatcher.commands (.start (blanks ++ token))
    (Node.literal?_eq_some_iff.mp htoken) hconsume rfl
  rw [explore_eq, hregistered, Node.walkAny_append_of_isOtherWord hpassed,
    Node.walkAny_cons_of_accepted (congrArg Walk.verdict hwalk), hwalk]
  rfl

end Dispatcher

end CommandTree
