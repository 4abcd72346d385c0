import CommandTree.Proofs.Node.Lookup
import CommandTree.Proofs.Node.Tour

/-!
# The order of literals

Siblings are tried in their order, but among literals with different words it does not
matter: at most one of them is the word that comes next, and the others are passed over
without a trace.  So a row of such siblings, anywhere among the children of a node anywhere
in a tree, can be put in any order; two neighbours can be exchanged, and children that are
all literals can be shuffled.  The walk is the same, with all it reports, and it stops at the
same node (`literals_commute`).
-/

namespace CommandTree.Node

variable {α : Type} {commands : List String}

/-! ## Trees with other children -/

/-- The tree with other children for the node at an address. -/
def withChildren (children : List (Node α)) : List Nat → Node α → Node α
  | [], node => { node with children }
  | position :: place, node =>
      { node with children := node.children.modify position (withChildren children place) }

theorem part?_append (node : Node α) (place address : List Nat) :
    node.part? (place ++ address) = (node.part? place).bind (·.part? address) := by
  induction place generalizing node with
  | nil => rfl
  | cons position place ih =>
      rw [List.cons_append, part?, part?]
      cases node.children[position]? with
      | none => rfl
      | some child => exact ih child

theorem part?_withChildren {node parent : Node α} {place : List Nat}
    (hplace : node.part? place = some parent) (children : List (Node α)) :
    (node.withChildren children place).part? place = some { parent with children } := by
  induction place generalizing node with
  | nil =>
      obtain rfl := Option.some.inj hplace
      rfl
  | cons position place ih =>
      obtain ⟨child, hchild, hparent⟩ := Option.bind_eq_some_iff.mp hplace
      simp [withChildren, part?, hchild, ih hparent]

/-! ## Trees that are walked alike -/

/-- The trees are walked alike, and the walks stop at related addresses. -/
structure Alike (commands : List String) (R : List Nat → List Nat → Prop)
    (node other : Node α) : Prop where
  walk_eq : ∀ context, other.walk commands context = node.walk commands context
  stop? : ∀ context,
    Option.Rel R (node.tour commands context).stop? (other.tour commands context).stop?

/-- The siblings, the first of which have the position `start`, are walked alike, and the
walks stop at related addresses. -/
structure AllAlike (commands : List String) (start : Nat) (R : List Nat → List Nat → Prop)
    (trees others : List (Node α)) : Prop where
  walk_eq : ∀ context, walkAny commands others context = walkAny commands trees context
  stop? : ∀ context,
    Option.Rel R (tourFrom commands start trees context).stop?
      (tourFrom commands start others context).stop?

/-- A row of siblings can be replaced by one that is walked alike. -/
theorem AllAlike.append {R : List Nat → List Nat → Prop} {front row other : List (Node α)}
    (back : List (Node α)) (h : AllAlike commands front.length R row other)
    (hlength : other.length = row.length)
    (hfront : ∀ position address, position < front.length →
      R (position :: address) (position :: address))
    (hback : ∀ position address, front.length + row.length ≤ position →
      R (position :: address) (position :: address)) :
    AllAlike commands 0 R (front ++ (row ++ back)) (front ++ (other ++ back)) := by
  have hsame : ∀ context,
      (walkAny commands front context).verdict = .refused →
      walkAny commands (other ++ back) (walkAny commands front context).context =
        walkAny commands (row ++ back) (walkAny commands front context).context ∧
      Option.Rel R (tourFrom commands 0 (front ++ (row ++ back)) context).stop?
        (tourFrom commands 0 (front ++ (other ++ back)) context).stop? := by
    intro context hrefused
    rw [stop?_tourFrom_append_of_refused hrefused, stop?_tourFrom_append_of_refused hrefused,
      Nat.zero_add]
    generalize (walkAny commands front context).context = state
    have hwalk := h.walk_eq state
    have hstop := h.stop? state
    rcases stop?_tourFrom_cases commands front.length row state with
      ⟨hnone, -⟩ | ⟨given, -, -, hgiven, -⟩
    · have hnone' : (walkAny commands other state).verdict = .refused := hwalk ▸ hnone
      rw [walkAny_append_of_refused hnone, walkAny_append_of_refused hnone', hwalk,
        stop?_tourFrom_append_of_refused hnone, stop?_tourFrom_append_of_refused hnone',
        hwalk, hlength]
      refine ⟨rfl, ?_⟩
      -- The tours stop at the same place, behind the row.
      rcases stop?_tourFrom_cases commands (front.length + row.length) back
          (walkAny commands row state).context with
        ⟨-, hnone⟩ | ⟨_, position, address, -, -, hsome⟩
      · rw [hnone]
        exact .none
      · rw [hsome]
        exact .some (hback _ address (Nat.le_add_right _ _))
    · have hgiven' : (walkAny commands other state).verdict = .accepted given := hwalk ▸ hgiven
      rw [walkAny_append_of_accepted hgiven, walkAny_append_of_accepted hgiven',
        tourFrom_append_of_accepted hgiven, tourFrom_append_of_accepted hgiven']
      exact ⟨hwalk, hstop⟩
  constructor
  · intro context
    cases hverdict : (walkAny commands front context).verdict with
    | accepted given =>
        rw [walkAny_append_of_accepted hverdict, walkAny_append_of_accepted hverdict]
    | refused =>
        rw [walkAny_append_of_refused hverdict, walkAny_append_of_refused hverdict,
          (hsame context hverdict).1]
  · intro context
    rcases stop?_tourFrom_cases commands 0 front context with
      ⟨hrefused, -⟩ | ⟨given, position, address, hgiven, hposition, hsome⟩
    · exact (hsame context hrefused).2
    · rw [tourFrom_append_of_accepted hgiven, tourFrom_append_of_accepted hgiven, hsome,
        Nat.zero_add]
      exact .some (hfront position address hposition)

/-- A node is walked alike if its children are. -/
theorem AllAlike.alike {R : List Nat → List Nat → Prop} {node : Node α}
    {children : List (Node α)} (h : AllAlike commands 0 R node.children children)
    (hown : R [] []) : Alike commands R node { node with children } := by
  constructor
  · intro context
    obtain ⟨kind, trees, action, optional, description⟩ := node
    have hbelow := h.walk_eq
    cases kind with
    | root => exact hbelow context
    | literal token => simp only [walk, hbelow]
    | argument name type => simp only [walk, hbelow]
  · intro context
    have henter' : { node with children }.enter? commands context =
        node.enter? commands context := rfl
    cases henter : node.enter? commands context with
    | none =>
        rw [tour_of_enter?_eq_none henter, tour_of_enter?_eq_none (henter'.trans henter)]
        exact .none
    | some next =>
        cases hcloses : node.closes next with
        | true =>
            rw [tour_of_closes henter hcloses, tour_of_closes (henter'.trans henter) hcloses]
            exact .some hown
        | false =>
            rw [tour_of_not_closes henter hcloses,
              tour_of_not_closes (henter'.trans henter) hcloses]
            have hfallback : { node with children }.fallback? = node.fallback? := rfl
            rw [hfallback]
            have hbelow := h.stop? next
            revert hbelow
            rcases (tourFrom commands 0 node.children next).stop? with _ | address <;>
              rcases (tourFrom commands 0 children next).stop? with _ | moved <;>
                rintro ⟨hmoved⟩
            · cases node.fallback? with
              | none => exact .none
              | some action => exact .some hown
            · exact .some hmoved

theorem Alike.singleton {R S : List Nat → List Nat → Prop} {node other : Node α}
    (h : Alike commands R node other) (start : Nat)
    (hbelow : ∀ {address moved}, R address moved → S (start :: address) (start :: moved)) :
    AllAlike commands start S [node] [other] := by
  have hstop : ∀ (tree : Node α) context, (tourFrom commands start [tree] context).stop? =
      (tree.tour commands context).stop?.map (start :: ·) := by
    intro tree context
    cases hverdict : (tree.walk commands context).verdict with
    | accepted given =>
        rw [tourFrom_cons_of_accepted hverdict]
        rfl
    | refused =>
        rw [tourFrom_cons_of_refused hverdict, stop?_eq_none_of_refused hverdict]
        rfl
  constructor
  · intro context
    simp only [walkAny, h.walk_eq]
  · intro context
    have hmoved := h.stop? context
    rw [hstop, hstop]
    revert hmoved
    rcases (node.tour commands context).stop? with _ | address <;>
      rcases (other.tour commands context).stop? with _ | moved <;> rintro ⟨hmoved⟩
    · exact .none
    · exact .some (hbelow hmoved)

/-! ## Literals in a row -/

/-- The node is a literal, and its word can come next in a line. -/
def IsWordLiteral (node : Node α) : Prop :=
  ∃ token, node.kind = .literal token ∧ (NodeKind.literal token).IsFit

/-- Literals of which none is the word that comes next are passed over, and the tour does not
stop there. -/
theorem walkAny_of_words_ne (commands : List String) {trees : List (Node α)}
    {context : Context} (hwords : ∀ tree ∈ trees, tree.IsWordLiteral)
    (hother : ∀ tree ∈ trees, ∀ token, tree.kind = .literal token →
      context.cursor.nextWord ≠ token.toList)
    (start : Nat) :
    walkAny commands trees context = .refused [] context ∧
      (tourFrom commands start trees context).stop? = none := by
  have hpassed : walkAny commands trees context = .refused [] context := by
    apply walkAny_of_passed
    intro tree htree
    obtain ⟨token, hkind, hfit⟩ := hwords tree htree
    exact walk_of_nextWord_ne hkind hfit (hother tree htree token hkind)
  refine ⟨hpassed, stop?_tourFrom_eq_none_of_refused ?_ start⟩
  rw [hpassed]
  rfl

/-- Among literals a line goes straight to the one that comes next, wherever it stands. -/
theorem walkAny_of_nextWord (commands : List String) {front back : List (Node α)}
    {tree : Node α} {token : String}
    (hwords : ∀ other ∈ front ++ tree :: back, other.IsWordLiteral)
    (hdistinct : ((front ++ tree :: back).map literal?).Nodup)
    (hkind : tree.kind = .literal token) {context : Context}
    (hnext : context.cursor.nextWord = token.toList) (start : Nat) :
    walkAny commands (front ++ tree :: back) context = tree.walk commands context ∧
      (tourFrom commands start (front ++ tree :: back) context).stop? =
        (tree.tour commands context).stop?.map ((start + front.length) :: ·) := by
  have htoken : some token ∉ (front ++ back).map literal? := by
    have hperm : ((front ++ tree :: back).map literal?).Perm
        ((tree :: (front ++ back)).map literal?) := List.perm_middle.map literal?
    rw [← literal?_eq_some_iff.mpr hkind]
    exact (List.nodup_cons.mp (hperm.nodup_iff.mp hdistinct)).1
  have hother : ∀ other ∈ front ++ back, ∀ word, other.kind = .literal word →
      context.cursor.nextWord ≠ word.toList := by
    rintro other hmem word hword hsame
    obtain rfl : token = word := String.toList_inj.mp (hnext.symm.trans hsame)
    exact htoken (List.mem_map.mpr ⟨other, hmem, literal?_eq_some_iff.mpr hword⟩)
  obtain ⟨hfront, hstop⟩ := walkAny_of_words_ne commands
    (fun other hmem => hwords other (by simp [hmem]))
    (fun other hmem => hother other (List.mem_append_left back hmem)) start
  have hrefused : (walkAny commands front context).verdict = .refused := by
    rw [hfront]
    rfl
  rw [walkAny_append_of_refused hrefused, stop?_tourFrom_append_of_refused hrefused, hfront]
  simp only [Walk.refused]
  cases hverdict : (tree.walk commands context).verdict with
  | accepted given =>
      rw [walkAny_cons_of_accepted hverdict, tourFrom_cons_of_accepted hverdict]
      exact ⟨rfl, rfl⟩
  | refused =>
      have hcursor := cursor_of_walk_refused hverdict
      have hlater : ∀ other ∈ back, ∀ word, other.kind = .literal word →
          (tree.walk commands context).context.cursor.nextWord ≠ word.toList := by
        rw [hcursor]
        exact fun other hmem => hother other (List.mem_append_right front hmem)
      obtain ⟨hback, hnone⟩ := walkAny_of_words_ne commands
        (fun other hmem => hwords other (by simp [hmem])) hlater (start + front.length + 1)
      rw [walkAny_cons_of_refused hverdict, tourFrom_cons_of_refused hverdict, hback, hnone,
        stop?_eq_none_of_refused hverdict]
      exact ⟨congrArg (Walk.after []) (Walk.after_refused_of_refused hverdict), rfl⟩

/-- Where siblings that follow `front` were put from the order `row` into another order, the
two positions are those of one of them. -/
inductive IsMovedTo (place : List Nat) (front row order : List (Node α)) :
    List Nat → List Nat → Prop where
  /-- The node is one of the siblings or below it. -/
  | inside {position moved : Nat} {sibling : Node α} (address : List Nat)
      (hbefore : row[position]? = some sibling) (hafter : order[moved]? = some sibling) :
      IsMovedTo place front row order (place ++ (front.length + position) :: address)
        (place ++ (front.length + moved) :: address)
  | outside {address : List Nat}
      (houtside : ∀ position below, position < row.length →
        address ≠ place ++ (front.length + position) :: below) :
      IsMovedTo place front row order address address

/-- Literals with different words are walked alike in any order, and the walk stops at the
same one. -/
theorem allAlike_of_perm {front row order : List (Node α)}
    (hwords : ∀ sibling ∈ row, sibling.IsWordLiteral)
    (hdistinct : (row.map literal?).Nodup) (horder : order.Perm row) :
    AllAlike commands front.length (IsMovedTo [] front row order) row order := by
  have hwords' : ∀ sibling ∈ order, sibling.IsWordLiteral :=
    fun sibling hmem => hwords sibling (horder.mem_iff.mp hmem)
  have hdistinct' : (order.map literal?).Nodup := (horder.map literal?).nodup_iff.mpr hdistinct
  have hboth : ∀ context,
      walkAny commands order context = walkAny commands row context ∧
      Option.Rel (IsMovedTo [] front row order)
        (tourFrom commands front.length row context).stop?
        (tourFrom commands front.length order context).stop? := by
    intro context
    by_cases hnext : ∃ sibling ∈ row, ∃ token, sibling.kind = .literal token ∧
        context.cursor.nextWord = token.toList
    · obtain ⟨sibling, hmem, token, hkind, hnext⟩ := hnext
      obtain ⟨before, after, hrow⟩ := List.append_of_mem hmem
      obtain ⟨before', after', horder'⟩ := List.append_of_mem (horder.mem_iff.mpr hmem)
      have hbefore : row[before.length]? = some sibling := by simp [hrow]
      have hafter : order[before'.length]? = some sibling := by simp [horder']
      obtain ⟨hwalk, hstop⟩ := walkAny_of_nextWord commands
        (hrow ▸ hwords) (hrow ▸ hdistinct) hkind hnext front.length
      obtain ⟨hwalk', hstop'⟩ := walkAny_of_nextWord commands
        (horder' ▸ hwords') (horder' ▸ hdistinct') hkind hnext front.length
      rw [← hrow] at hwalk hstop
      rw [← horder'] at hwalk' hstop'
      refine ⟨hwalk'.trans hwalk.symm, ?_⟩
      rw [hstop, hstop']
      cases (sibling.tour commands context).stop? with
      | none => exact .none
      | some address => exact .some (.inside address hbefore hafter)
    · have hother : ∀ sibling ∈ row, ∀ token, sibling.kind = .literal token →
          context.cursor.nextWord ≠ token.toList :=
        fun sibling hmem token hkind hword => hnext ⟨sibling, hmem, token, hkind, hword⟩
      obtain ⟨hwalk, hstop⟩ := walkAny_of_words_ne commands hwords hother front.length
      obtain ⟨hwalk', hstop'⟩ := walkAny_of_words_ne commands hwords'
        (fun sibling hmem => hother sibling (horder.mem_iff.mp hmem)) front.length
      rw [hwalk, hwalk', hstop, hstop']
      exact ⟨rfl, .none⟩
  exact ⟨fun context => (hboth context).1, fun context => (hboth context).2⟩

/-! ## Anywhere in a tree -/

theorem IsMovedTo.below {place address moved : List Nat} {front row order : List (Node α)}
    (h : IsMovedTo place front row order address moved) (position : Nat) :
    IsMovedTo (position :: place) front row order (position :: address) (position :: moved) := by
  cases h with
  | inside address hbefore hafter => exact .inside address hbefore hafter
  | outside houtside =>
      apply IsMovedTo.outside
      intro other below hother hsame
      exact houtside other below hother (List.cons.inj hsame).2

/-- A tree is walked alike if the children of one of its nodes are. -/
theorem alike_withChildren {front row order : List (Node α)} {children : List (Node α)}
    {node parent : Node α} {place : List Nat} (hplace : node.part? place = some parent)
    (h : AllAlike commands 0 (IsMovedTo [] front row order) parent.children children) :
    Alike commands (IsMovedTo place front row order) node (node.withChildren children place) := by
  induction place generalizing node with
  | nil =>
      obtain rfl := Option.some.inj hplace
      apply h.alike
      apply IsMovedTo.outside
      simp
  | cons position place ih =>
      obtain ⟨child, hchild, hparent⟩ := Option.bind_eq_some_iff.mp hplace
      obtain ⟨hposition, rfl⟩ := List.getElem?_eq_some_iff.mp hchild
      have hlength : (node.children.take position).length = position :=
        List.length_take_of_le (Nat.le_of_lt hposition)
      have hrow : AllAlike commands (node.children.take position).length
          (IsMovedTo (position :: place) front row order) [node.children[position]]
          [node.children[position].withChildren children place] := by
        rw [hlength]
        exact (ih hparent).singleton position fun hmoved => hmoved.below position
      have hapart : ∀ other address, other ≠ position →
          IsMovedTo (position :: place) front row order (other :: address) (other :: address) := by
        intro other address hne
        apply IsMovedTo.outside
        intro _ _ _ hsame
        exact hne (List.cons.inj hsame).1
      have hall := hrow.append (node.children.drop (position + 1)) rfl
        (fun other address hother => hapart other address (by omega))
        (fun other address hother => hapart other address (by
          rw [List.length_singleton] at hother
          omega))
      rw [List.singleton_append, List.getElem_cons_drop, List.take_append_drop,
        List.singleton_append, ← List.modify_eq_take_cons_drop hposition] at hall
      apply hall.alike
      apply IsMovedTo.outside
      simp

/-- What is at an address is still there, with its kind and action, unless it is one of the
children that are exchanged or below one. -/
theorem exists_part?_withChildren {node parent part : Node α} {place address : List Nat}
    {children : List (Node α)} (hplace : node.part? place = some parent)
    (hsame : ∀ position below, address = place ++ position :: below →
      children[position]? = parent.children[position]?)
    (hpart : node.part? address = some part) :
    ∃ counterpart, (node.withChildren children place).part? address = some counterpart ∧
      counterpart.kind = part.kind ∧ counterpart.action = part.action := by
  induction place generalizing node address with
  | nil =>
      obtain rfl := Option.some.inj hplace
      cases address with
      | nil =>
          obtain rfl := Option.some.inj hpart
          exact ⟨_, rfl, rfl, rfl⟩
      | cons position below =>
          refine ⟨part, ?_, rfl, rfl⟩
          rw [part?] at hpart ⊢
          rw [withChildren, hsame position below rfl]
          exact hpart
  | cons first place ih =>
      cases address with
      | nil =>
          obtain rfl := Option.some.inj hpart
          exact ⟨_, rfl, rfl, rfl⟩
      | cons position below =>
          obtain ⟨child, hchild, hbelow⟩ := Option.bind_eq_some_iff.mp hpart
          by_cases hfirst : first = position
          · subst hfirst
            obtain ⟨child', hchild', hparent⟩ := Option.bind_eq_some_iff.mp hplace
            obtain rfl := Option.some.inj (hchild'.symm.trans hchild)
            obtain ⟨counterpart, hfound, halike⟩ := ih hparent
              (fun other rest hother => hsame other rest (congrArg (first :: ·) hother)) hbelow
            exact ⟨counterpart, by simp [withChildren, part?, hchild, hfound], halike⟩
          · exact ⟨part, by simp [withChildren, part?, hfirst, hchild, hbelow], rfl, rfl⟩

/-- What is at an address is found, with its kind and action, where it is moved to. -/
theorem exists_part?_of_isMovedTo {front row order back : List (Node α)}
    {node parent part : Node α} {place address moved : List Nat}
    (hplace : node.part? place = some parent)
    (hchildren : parent.children = front ++ (row ++ back)) (hlength : order.length = row.length)
    (hmoved : IsMovedTo place front row order address moved)
    (hpart : node.part? address = some part) :
    ∃ counterpart,
      (node.withChildren (front ++ (order ++ back)) place).part? moved = some counterpart ∧
        counterpart.kind = part.kind ∧ counterpart.action = part.action := by
  cases hmoved with
  | @inside position later sibling below hbefore hafter =>
      -- Below a sibling nothing has changed.
      have hrow : (front ++ (row ++ back))[front.length + position]? = some sibling := by
        rw [List.getElem?_append_right (Nat.le_add_right _ _), Nat.add_sub_cancel_left,
          List.getElem?_append_left (List.getElem?_eq_some_iff.mp hbefore).1, hbefore]
      have horder : (front ++ (order ++ back))[front.length + later]? = some sibling := by
        rw [List.getElem?_append_right (Nat.le_add_right _ _), Nat.add_sub_cancel_left,
          List.getElem?_append_left (List.getElem?_eq_some_iff.mp hafter).1, hafter]
      refine ⟨part, ?_, rfl, rfl⟩
      rw [part?_append, hplace, Option.bind_some, part?, hchildren, hrow] at hpart
      rw [part?_append, part?_withChildren hplace, Option.bind_some, part?, horder]
      exact hpart
  | outside houtside =>
      apply exists_part?_withChildren hplace _ hpart
      intro position below haddress
      rw [hchildren]
      by_cases hfront : position < front.length
      · rw [List.getElem?_append_left hfront, List.getElem?_append_left hfront]
      · obtain ⟨offset, rfl⟩ := Nat.exists_eq_add_of_le (Nat.not_lt.mp hfront)
        have hrow : row.length ≤ offset :=
          Nat.not_lt.mp fun hinside => houtside offset below hinside haddress
        rw [List.getElem?_append_right (Nat.le_add_right _ _),
          List.getElem?_append_right (Nat.le_add_right _ _), Nat.add_sub_cancel_left,
          List.getElem?_append_right hrow, List.getElem?_append_right (hlength ▸ hrow), hlength]

/-! ## Any order -/

/-- Siblings in a row that are literals with different words can be put in any order, at any
place in a tree.  The walk of the tree is the same in every context, with its verdict, its
last state and all that is reported, and it stops at the same node, whose action it fires. -/
theorem literals_commute (commands : List String) {node parent : Node α} {place : List Nat}
    {front row order back : List (Node α)} (hplace : node.part? place = some parent)
    (hchildren : parent.children = front ++ (row ++ back))
    (hwords : ∀ sibling ∈ row, sibling.IsWordLiteral) (hdistinct : (row.map literal?).Nodup)
    (horder : order.Perm row) (context : Context) :
    let other := node.withChildren (front ++ (order ++ back)) place
    let walk := node.walk commands context
    let tour := node.tour commands context
    let otherTour := other.tour commands context
    other.walk commands context = walk ∧
    Option.Rel (IsMovedTo place front row order) tour.stop? otherTour.stop? ∧
    ∀ address ∈ tour.stop?, ∀ moved ∈ otherTour.stop?, ∃ part counterpart,
      node.part? address = some part ∧ other.part? moved = some counterpart ∧
      counterpart.kind = part.kind ∧ counterpart.action = part.action ∧
      walk.fired = (part.action.map fun action => (action, walk.context)).toList := by
  intro other walk tour otherTour
  have hrow : AllAlike commands 0 (IsMovedTo [] front row order) parent.children
      (front ++ (order ++ back)) := by
    rw [hchildren]
    apply (allAlike_of_perm hwords hdistinct horder).append back horder.length_eq
    · intro position address hposition
      apply IsMovedTo.outside
      intro _ _ _ hsame
      obtain ⟨rfl, -⟩ := List.cons.inj hsame
      omega
    · intro position address hposition
      apply IsMovedTo.outside
      intro _ _ hinside hsame
      obtain ⟨rfl, -⟩ := List.cons.inj hsame
      omega
  have halike := alike_withChildren hplace hrow
  have hstop := halike.stop? context
  refine ⟨halike.walk_eq context, hstop, ?_⟩
  intro address haddress moved hmoved
  have hrelated : IsMovedTo place front row order address moved := by
    have haddress' : (node.tour commands context).stop? = some address := haddress
    have hmoved' : (other.tour commands context).stop? = some moved := hmoved
    rw [haddress', hmoved'] at hstop
    cases hstop with
    | some hrelated => exact hrelated
  obtain ⟨part, hpart, hfired⟩ := fired_of_stop? haddress
  obtain ⟨counterpart, hfound, hkind, haction⟩ :=
    exists_part?_of_isMovedTo hplace hchildren horder.length_eq hrelated hpart
  exact ⟨part, counterpart, hpart, hfound, hkind, haction, hfired⟩

/-- A word with a number, two other words and a text below it.  One of the two words is the
beginning of the other. -/
def switchTree : Node Nat :=
  { kind := .literal "set"
    children :=
      [{ kind := .argument "level" (.integer {}), action := some 1 },
        { kind := .literal "on"
          children := [{ kind := .literal "now" }]
          action := some 2 },
        { kind := .literal "one"
          children := [{ kind := .argument "name" (.text {}), action := some 3 }] },
        { kind := .argument "name" (.text {}), action := some 4 }] }

/-- In the tree of all commands the two words can be exchanged.  The text below the second is
taken in either order, and so is the report that no number comes first. -/
theorem literals_commute_below_word :
    let front := switchTree.children.take 1
    let row := (switchTree.children.drop 1).take 2
    let back := switchTree.children.drop 3
    let node := root [switchTree]
    let other := node.withChildren (front ++ (row.reverse ++ back)) [0]
    let walk := node.walk [] (.start "set one lamp")
    (node.part? [0] = some switchTree ∧
      switchTree.children = front ++ (row ++ back) ∧
      (∀ sibling ∈ row, sibling.IsWordLiteral) ∧ (row.map literal?).Nodup ∧
      row.reverse.Perm row) ∧
    other.walk [] (.start "set one lamp") = walk ∧
    walk.fired.map Prod.fst = [3] ∧ walk.diagnostics = [.missingArgument "level"] ∧
    (node.tour [] (.start "set one lamp")).stop? = some [0, 2, 0] ∧
    (other.tour [] (.start "set one lamp")).stop? = some [0, 1, 0] := by
  intro front row back node other walk
  have hplace : node.part? [0] = some switchTree := rfl
  have hchildren : switchTree.children = front ++ (row ++ back) := rfl
  have hwords : ∀ sibling ∈ row, sibling.IsWordLiteral := by
    intro sibling hmem
    have hrow : row = [switchTree.children[1], switchTree.children[2]] := rfl
    rw [hrow, List.mem_pair] at hmem
    rcases hmem with rfl | rfl
    · exact ⟨"on", rfl, by decide, by decide⟩
    · exact ⟨"one", rfl, by decide, by decide⟩
  have hdistinct : (row.map literal?).Nodup := by decide
  have horder : row.reverse.Perm row := List.reverse_perm row
  obtain ⟨hwalk, -, -⟩ :=
    literals_commute [] hplace hchildren hwords hdistinct horder (.start "set one lamp")
  refine ⟨⟨hplace, hchildren, hwords, hdistinct, horder⟩, hwalk, ?_⟩
  decide +kernel

end CommandTree.Node
