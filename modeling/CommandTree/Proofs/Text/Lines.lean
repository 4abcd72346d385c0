import CommandTree.Text.Lines
import Mathlib.Data.List.Basic
import Mathlib.Data.List.Induction

/-!
# Cutting an input into lines

An input is cut in one way: each line feed ends a line, a carriage return directly before
it is dropped, and what is left over at the end is a line as it stands.
-/

namespace CommandTree.Text

variable {input line later : List UInt8} {cut : List (List UInt8)}

/-- A line without a carriage return at its end. -/
def chomp (line : List UInt8) : List UInt8 :=
  if line.getLast? = some carriageReturn then line.dropLast else line

/-- An input and the lines it is cut into. -/
inductive CutsInto : List UInt8 → List (List UInt8) → Prop
  | empty : CutsInto [] []
  | rest {rest : List UInt8} (hne : rest ≠ []) (hrest : lineFeed ∉ rest) :
      CutsInto rest [rest]
  | line {line later : List UInt8} {cut : List (List UInt8)} (hline : lineFeed ∉ line)
      (hlater : CutsInto later cut) :
      CutsInto (line ++ lineFeed :: later) (chomp line :: cut)

theorem endedLine_reverse (line : List UInt8) : endedLine line.reverse = chomp line := by
  induction line using List.reverseRecOn with
  | nil => rfl
  | append_singleton earlier byte _ =>
      by_cases hreturn : byte = carriageReturn <;> simp [endedLine, chomp, hreturn]

theorem linesFrom_append {block : List UInt8} (hblock : lineFeed ∉ block)
    (reversed later : List UInt8) :
    linesFrom reversed (block ++ later) = linesFrom (block.reverse ++ reversed) later := by
  induction block generalizing reversed with
  | nil => rfl
  | cons byte rest ih =>
      have hbyte : byte ≠ lineFeed := fun heq => hblock (heq ▸ List.mem_cons_self)
      have hrest : lineFeed ∉ rest := fun hmem => hblock (List.mem_cons_of_mem _ hmem)
      rw [List.cons_append, linesFrom, if_neg hbyte, ih hrest, List.reverse_cons,
        List.append_assoc]
      rfl

theorem lines_append_lineFeed (hline : lineFeed ∉ line) (later : List UInt8) :
    lines (line ++ lineFeed :: later) = chomp line :: lines later := by
  rw [lines, linesFrom_append hline, List.append_nil, linesFrom, if_pos rfl,
    endedLine_reverse]
  rfl

theorem lines_of_not_mem (hne : input ≠ []) (hrest : lineFeed ∉ input) :
    lines input = [input] := by
  have hfrom := linesFrom_append hrest [] []
  rw [List.append_nil, List.append_nil] at hfrom
  simp [lines, hfrom, linesFrom, hne]

theorem lines_of_cutsInto (hcut : CutsInto input cut) : lines input = cut := by
  induction hcut with
  | empty => rfl
  | rest hne hrest => exact lines_of_not_mem hne hrest
  | line hline _ ih => rw [lines_append_lineFeed hline, ih]

theorem cutsInto_lines (input : List UInt8) : CutsInto input (lines input) := by
  by_cases hfeed : lineFeed ∈ input
  · obtain ⟨line, later, hinput, hline⟩ := List.eq_append_cons_of_mem hfeed
    have hshorter : later.length < input.length := by
      rw [hinput, List.length_append, List.length_cons]
      omega
    rw [hinput, lines_append_lineFeed hline]
    exact .line hline (cutsInto_lines later)
  · by_cases hne : input = []
    · subst hne
      exact .empty
    · rw [lines_of_not_mem hne hfeed]
      exact .rest hne hfeed
termination_by input.length

/-- There is one way to cut an input into lines. -/
theorem cutsInto_iff : CutsInto input cut ↔ lines input = cut :=
  ⟨lines_of_cutsInto, fun hlines => hlines ▸ cutsInto_lines input⟩

example : lines [0x61, carriageReturn, lineFeed, lineFeed, 0x62, carriageReturn] =
    [[0x61], [], [0x62, carriageReturn]] := by decide

/-! ## Inputs that are continued -/

/-- A line begins after this: nothing stands here, or a line feed stands last. -/
def EndsLine (input : List UInt8) : Prop :=
  input = [] ∨ input.getLast? = some lineFeed

/-- After the end of a line an input is cut as if it began there. -/
theorem CutsInto.append {more : List (List UInt8)} (hcut : CutsInto input cut)
    (hends : EndsLine input) (hmore : CutsInto later more) :
    CutsInto (input ++ later) (cut ++ more) := by
  induction hcut with
  | empty => exact hmore
  | rest hne hrest =>
      rcases hends with hempty | hlast
      · exact absurd hempty hne
      · exact absurd (List.mem_of_getLast? hlast) hrest
  | @line line tail cut hline _ ih =>
      -- The last byte stands in the tail, unless the line feed is the last.
      have htail : EndsLine tail := by
        by_cases hempty : tail = []
        · exact .inl hempty
        · rcases hends with hnil | hlast
          · simp at hnil
          · rw [List.getLast?_append_of_ne_nil _ (by simp),
              List.getLast?_cons_of_ne_nil hempty] at hlast
            exact .inr hlast
      rw [List.append_assoc, List.cons_append, List.cons_append]
      exact .line hline (ih htail)

end CommandTree.Text
