import CommandTree.Proofs.Argument.Extract
import CommandTree.Proofs.Node.Path

/-!
# Walks with more commands

The registered commands matter to a walk only where a text has to be one of them.  With more
commands more texts are let through, so what could be parsed still can be, and a path that
takes the line still does; the first one may be another.  Where no type looks at the
commands, the walk is the same.
-/

namespace CommandTree

variable {commands later : List String}

/-! ## Argument types -/

theorem Rule.Admits.mono {rule : Rule} {value : String} (hsubset : commands ⊆ later)
    (h : rule.Admits commands value) : rule.Admits later value := by
  cases rule with
  | commands => exact hsubset h
  | pattern _ | list _ | predicate _ => exact h

theorem TextType.check_mono {type : TextType} {value : String} (hsubset : commands ⊆ later)
    (h : type.check commands value = none) : type.check later value = none := by
  obtain ⟨hrule, hlength⟩ := Option.or_eq_none_iff.mp h
  refine Option.or_eq_none_iff.mpr ⟨?_, hlength⟩
  rw [Option.bind_eq_none_iff] at hrule ⊢
  intro rule hmem
  have hadmits := Rule.check_eq_none_iff.mp (hrule rule hmem)
  exact Rule.check_eq_none_iff.mpr (hadmits.mono hsubset)

theorem TextType.extract_mono {type : TextType} {text : List Char} {extract : Extract}
    (hsubset : commands ⊆ later) (h : type.extract commands text = .ok extract) :
    type.extract later text = .ok extract := by
  unfold TextType.extract at h ⊢
  cases hscan : Token.scan? text with
  | none => simp [hscan] at h
  | some token =>
      cases hcheck : type.check commands (String.ofList token.value) with
      | some diagnostic => simp [hscan, hcheck] at h
      | none => simpa [hscan, hcheck, type.check_mono hsubset hcheck] using h

namespace ArgumentType

/-- What is read is read in the same way with more commands. -/
theorem IsStandard.read_mono {type : ArgumentType} (htype : type.IsStandard) {context : Context}
    {value : Value} (hsubset : commands ⊆ later)
    (hvalue : (type.read commands context).value? = some value) :
    type.read later context = type.read commands context := by
  cases type with
  | integer type => rfl
  | custom read => exact htype.elim
  | text type =>
      rw [htype.read_eq] at hvalue
      cases hextract : (text type).extract commands (Text.dropBlanks context.cursor.ahead) with
      | error reports => simp [hextract, Reading.ofExtract, Reading.refused] at hvalue
      | ok extract =>
          have hlater : (text type).extract later (Text.dropBlanks context.cursor.ahead) =
              .ok extract := type.extract_mono hsubset hextract
          rw [htype.read_eq, htype.read_eq, hextract, hlater]

/-- The type wants a text to be one of the registered commands. -/
def UsesCommands : ArgumentType → Prop
  | text type => type.rule = some .commands
  | _ => False

/-- A type that does not use the commands reads the same whatever they are. -/
theorem IsStandard.read_congr {type : ArgumentType} (htype : type.IsStandard)
    (hfree : ¬ type.UsesCommands) (commands later : List String) (context : Context) :
    type.read later context = type.read commands context := by
  cases type with
  | integer type => rfl
  | custom read => exact htype.elim
  | text type =>
      have hcheck : ∀ value, type.check later value = type.check commands value := by
        intro value
        rw [TextType.check, TextType.check]
        congr 1
        cases hrule : type.rule with
        | none => rfl
        | some rule =>
            cases rule with
            | commands => exact absurd hrule hfree
            | pattern _ | list _ | predicate _ => rfl
      simp only [read, TextType.read, hcheck]

end ArgumentType

namespace Node

variable {α : Type} {node : Node α} {context next : Context}

/-! ## More paths -/

theorem enter?_mono (hsubset : commands ⊆ later) (htypes : node.AllTypes ArgumentType.IsStandard)
    (henter : node.enter? commands context = some next) :
    node.enter? later context = some next := by
  cases hkind : node.kind with
  | root | literal _ => simpa [enter?, hkind] using henter
  | argument name type =>
      obtain ⟨value, hvalue, hnext⟩ := exists_value_of_enter?_argument hkind henter
      have hread := (htypes.own hkind).read_mono hsubset hvalue
      simp [enter?, hkind, hread, hvalue, hnext]

/-- A path that takes the line takes it with more commands. -/
theorem Accepts.mono {path : List Nat} {legs : List (Leg α)}
    (h : Accepts commands node context path legs) (hsubset : commands ⊆ later)
    (htypes : node.AllTypes ArgumentType.IsStandard) :
    Accepts later node context path legs := by
  induction h with
  | ends henter hcanEnd => exact .ends (enter?_mono hsubset htypes henter) hcanEnd
  | passes henter hopen hchild _ ih =>
      have hbelow := ih (htypes.of_mem_children (List.mem_of_getElem? hchild))
      exact .passes (enter?_mono hsubset htypes henter) hopen hchild hbelow

/-- A tree that takes the line takes it with more commands. -/
theorem isAccepted_mono (hsubset : commands ⊆ later)
    (htypes : node.AllTypes ArgumentType.IsStandard)
    (h : (node.walk commands context).verdict.isAccepted = true) :
    (node.walk later context).verdict.isAccepted = true := by
  have hkeep := htypes.mono fun _ htype => htype.keepsBindings
  obtain ⟨path, legs, hpath⟩ := (isAccepted_iff_exists_accepts commands hkeep context).mp h
  exact (isAccepted_iff_exists_accepts later hkeep context).mpr
    ⟨path, legs, hpath.mono hsubset htypes⟩

/-! ## The same walk -/

theorem walkAny_congr {trees : List (Node α)}
    (htrees : ∀ tree ∈ trees, ∀ context, tree.walk later context = tree.walk commands context)
    (context : Context) : walkAny later trees context = walkAny commands trees context := by
  induction trees generalizing context with
  | nil => rfl
  | cons tree rest ih =>
      have hfirst := htrees tree List.mem_cons_self
      have hrest := ih fun other hother => htrees other (List.mem_cons_of_mem tree hother)
      simp only [walkAny, hfirst, hrest]

/-- Where no type uses the commands, the walk is the same whatever they are. -/
theorem walk_congr (commands later : List String)
    (htypes : node.AllTypes fun type => type.IsStandard ∧ ¬ type.UsesCommands)
    (context : Context) : node.walk later context = node.walk commands context := by
  induction node using treeInduction generalizing context with
  | step node ih =>
      have hbelow : ∀ context, walkAny later node.children context =
          walkAny commands node.children context :=
        walkAny_congr fun child hchild context =>
          ih child hchild (htypes.of_mem_children hchild) context
      obtain ⟨kind, children, action, optional, description⟩ := node
      cases kind with
      | root => exact hbelow context
      | literal token => simp only [walk, hbelow]
      | argument name type =>
          obtain ⟨htype, hfree⟩ := htypes.own rfl
          simp only [walk, htype.read_congr hfree commands later, hbelow]

end Node

end CommandTree
