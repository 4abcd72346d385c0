import CommandTree.Dispatcher.Basic
import CommandTree.Proofs.Node.Fitness

/-!
# Registering nodes

What each successful registration preserves holds after any number of them.  In
particular a property of the argument types in use only has to be checked for the
nodes that are registered.

A node can be registered if it is fit and its word is not taken
(`fault?_eq_none_iff`).  This keeps a dispatcher sound: its commands are the words of
its literals, all of them different, and all its trees are fit (`Sound.extend`).
-/

namespace CommandTree

variable {α : Type} {P : ArgumentType → Prop}

theorem Node.allTypes_root_iff {children : List (Node α)} :
    (Node.root children).AllTypes P ↔ ∀ child ∈ children, child.AllTypes P := by
  constructor
  · intro h child hchild
    exact h.of_mem_children hchild
  · intro h part hpart name type hkind
    rw [nodes_eq_cons] at hpart
    rcases List.mem_cons.mp hpart with rfl | hbelow
    · simp [root] at hkind
    · obtain ⟨child, hchild, hmem⟩ := List.mem_flatMap.mp hbelow
      exact h child hchild part hmem name type hkind

namespace Dispatcher

variable {dispatcher : Dispatcher α}

/-- What each successful registration preserves holds after several, also if they
stop early. -/
theorem registerAll_invariant {I : Dispatcher α → Prop} {nodes : List (Node α)}
    (hstep : ∀ node ∈ nodes, ∀ {before after : Dispatcher α},
      I before → before.register node = .ok after → I after)
    (hinit : I dispatcher) : I (dispatcher.registerAll nodes).1 := by
  induction nodes generalizing dispatcher with
  | nil => exact hinit
  | cons node rest ih =>
      rw [registerAll]
      split
      · exact hinit
      · next next hregister =>
          apply ih
          · intro later hlater
            exact hstep later (List.mem_cons_of_mem node hlater)
          · exact hstep node List.mem_cons_self hinit hregister

theorem allTypes_of_register {next : Dispatcher α} {node : Node α}
    (hbefore : dispatcher.root.AllTypes P) (hnode : node.AllTypes P)
    (hregister : dispatcher.register node = .ok next) : next.root.AllTypes P := by
  obtain ⟨-, rfl⟩ := register_eq_ok_iff.mp hregister
  rw [root, Node.allTypes_root_iff] at hbefore ⊢
  intro child hchild
  rcases List.mem_append.mp hchild with hold | hnew
  · exact hbefore child hold
  · obtain rfl := List.mem_singleton.mp hnew
    exact hnode

/-- A dispatcher on which nodes are registered has no argument types but theirs. -/
theorem allTypes_registerAll {linePrefix : String} {nodes : List (Node α)}
    (hnodes : ∀ node ∈ nodes, node.AllTypes P) :
    (registerAll { linePrefix } nodes).1.root.AllTypes P := by
  refine registerAll_invariant (I := fun dispatcher => dispatcher.root.AllTypes P)
    ?_ ?_
  · intro node hnode before after hbefore hregister
    exact allTypes_of_register hbefore (hnodes node hnode) hregister
  · exact Node.allTypes_root_iff.mpr (by simp)

/-! ## Nodes that can be registered -/

/-- The node is fit, and its word, if it is a literal, is not taken. -/
structure Admits (dispatcher : Dispatcher α) (node : Node α) : Prop where
  fit : node.IsFit
  free : ∀ token, node.literal? = some token → token ∉ dispatcher.commands

theorem fault?_eq_none_iff {node : Node α} :
    dispatcher.fault? node = none ↔ dispatcher.Admits node := by
  unfold fault?
  cases hfault : node.fault? with
  | some fault =>
      refine ⟨by simp, fun h => ?_⟩
      rw [Node.fault?_eq_none_iff.mpr h.fit] at hfault
      cases hfault
  | none =>
      have hfit := Node.fault?_eq_none_iff.mp hfault
      simp only [Option.map_eq_none_iff, Option.filter_eq_none_iff, decide_eq_true_eq]
      exact ⟨fun h => ⟨hfit, h⟩, Admits.free⟩

/-- What is wrong with a registration is what is wrong with the first unfit node, and
if there is none, that the word is taken. -/
theorem exists_cause_of_fault? {node : Node α} {fault : RegistrationFault}
    (h : dispatcher.fault? node = some fault) :
    (∃ part, node.IsFirstUnfit part ∧ part.kind.fault? = some fault) ∨
      node.IsFit ∧ ∃ token ∈ dispatcher.commands, node.literal? = some token ∧
        fault = .duplicateCommand token := by
  unfold fault? at h
  split at h
  · next other hfault =>
      obtain rfl := Option.some.inj h
      exact .inl (Node.exists_isFirstUnfit hfault)
  · next hfault =>
      obtain ⟨token, htoken, rfl⟩ := Option.map_eq_some_iff.mp h
      obtain ⟨hliteral, htaken⟩ := Option.filter_eq_some_iff.mp htoken
      exact .inr ⟨Node.fault?_eq_none_iff.mp hfault, token,
        of_decide_eq_true htaken, hliteral, rfl⟩

theorem registerAll_cons_of_admits {node : Node α} (h : dispatcher.Admits node)
    (rest : List (Node α)) :
    dispatcher.registerAll (node :: rest) = (dispatcher.extend node).registerAll rest := by
  have hregister : dispatcher.register node = .ok (dispatcher.extend node) :=
    register_eq_ok_iff.mpr ⟨fault?_eq_none_iff.mpr h, rfl⟩
  rw [registerAll, hregister]

/-- Nodes that are fit can be registered together if their words are all different and
none is taken. -/
theorem registerAll_of_nodup {nodes : List (Node α)} (hfit : ∀ node ∈ nodes, node.IsFit)
    (hnodup : (dispatcher.commands ++ nodes.filterMap Node.literal?).Nodup) :
    dispatcher.registerAll nodes =
      ({ dispatcher with
          registered := dispatcher.registered ++ nodes
          commands := dispatcher.commands ++ nodes.filterMap Node.literal? }, none) := by
  induction nodes generalizing dispatcher with
  | nil => simp [registerAll]
  | cons node rest ih =>
      have hwords : (node :: rest).filterMap Node.literal? =
          node.literal?.toList ++ rest.filterMap Node.literal? := by
        cases hliteral : node.literal? <;> simp [hliteral]
      rw [hwords, ← List.append_assoc] at hnodup ⊢
      have hadmits : dispatcher.Admits node := by
        refine ⟨hfit node List.mem_cons_self, ?_⟩
        intro token htoken hmem
        obtain ⟨-, -, hdisjoint⟩ := List.nodup_append.mp (List.nodup_append.mp hnodup).1
        exact hdisjoint token hmem token (Option.mem_toList.mpr htoken) rfl
      have hrest : ∀ other ∈ rest, other.IsFit := fun other hother =>
        hfit other (List.mem_cons_of_mem node hother)
      have hlater := @ih (dispatcher.extend node) hrest hnodup
      rw [registerAll_cons_of_admits hadmits, hlater]
      simp [Dispatcher.extend]

/-! ## Sound dispatchers -/

/-- The commands are the words of the registered literals, in order and all different,
and every registered tree is fit. -/
structure Sound (dispatcher : Dispatcher α) : Prop where
  commands_eq : dispatcher.commands = dispatcher.root.children.filterMap Node.literal?
  nodup : dispatcher.commands.Nodup
  fit : ∀ node ∈ dispatcher.root.children, node.IsFit

theorem sound_empty (linePrefix : String) :
    ({ linePrefix } : Dispatcher α).Sound where
  commands_eq := rfl
  nodup := List.nodup_nil
  fit _ hnode := absurd hnode List.not_mem_nil

theorem Sound.extend (h : dispatcher.Sound) {node : Node α}
    (hadmits : dispatcher.Admits node) : (dispatcher.extend node).Sound where
  commands_eq := by
    have hold : dispatcher.commands = dispatcher.registered.filterMap Node.literal? :=
      h.commands_eq
    cases hliteral : node.literal? <;>
      simp [Dispatcher.extend, root, Node.root, hliteral, hold]
  nodup := by
    rw [Dispatcher.extend, List.nodup_append]
    refine ⟨h.nodup, ?_, ?_⟩
    · cases node.literal? <;> simp
    · intro token htoken other hother heq
      exact hadmits.free other (Option.mem_toList.mp hother) (heq ▸ htoken)
  fit := by
    intro other hother
    rcases List.mem_append.mp hother with hold | hnew
    · exact h.fit other hold
    · obtain rfl := List.mem_singleton.mp hnew
      exact hadmits.fit

end Dispatcher

end CommandTree
