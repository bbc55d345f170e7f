import TaggedMarkup.Source.Cursor

/-!
# Outermost element trees

The search for element trees goes down from a node and stops at the first node
that is an element, perhaps between parentheses.  Nodes are told apart by their
addresses, the child indices on the way to them, since two nodes of a program
may look alike.  The nodes that the search lists are exactly the outermost
ones: none is below another, nothing above them is an element tree, and every
element of the program is one of them or below just one.  In a program whose
nodes are nested they stand in order.
-/

namespace TaggedMarkup

/-! ## Addresses -/

/-- The child indices on the way from a node to one below it. -/
abbrev Address := List Nat

namespace Cursor

def at? (cursor : Cursor) : Address → Option Cursor
  | [] => some cursor
  | index :: address => cursor.children[index]?.bind fun child => child.at? address

/-- The node at an address whose first index chooses among some nodes. -/
def among? (cursors : List Cursor) : Address → Option Cursor
  | [] => none
  | index :: address => cursors[index]?.bind fun cursor => cursor.at? address

end Cursor

/-! ## Outermost nodes -/

/-- Neither address is that of an ancestor of the other, nor are they the same. -/
def Apart (first second : Address) : Prop :=
  ¬ first <+: second ∧ ¬ second <+: first

/-- These are the addresses of the outermost element trees among the nodes that `find` finds. -/
structure Outermost (find : Address → Option Cursor) (addresses : List Address) : Prop where
  accepted : ∀ address ∈ addresses, ∃ cursor, find address = some cursor ∧
    cursor.element?.isSome = true
  apart : addresses.Pairwise Apart
  maximal : ∀ address ∈ addresses, ∀ above, above <+: address → above ≠ address →
    ∀ cursor, find above = some cursor → cursor.element? = none
  covers : ∀ address cursor, find address = some cursor → cursor.node.kind.isElement = true →
    ∃ above ∈ addresses, above <+: address ∧
      ∀ other ∈ addresses, other <+: address → other = above

theorem isSome_element?_of_isElement {cursor : Cursor}
    (h : cursor.node.kind.isElement = true) : cursor.element?.isSome = true := by
  obtain ⟨⟨kind, start, stop, named, field, missing, children⟩, before⟩ := cursor
  have hkind : kind.isElement = true := h
  simp [Cursor.element?, Node.element?, hkind]

theorem Outermost.self {cursor : Cursor} (h : cursor.element?.isSome = true) :
    Outermost cursor.at? [[]] where
  accepted address hmem := by
    rw [List.mem_singleton] at hmem
    subst hmem
    exact ⟨cursor, rfl, h⟩
  apart := List.pairwise_singleton _ _
  maximal address hmem above hprefix hne := by
    rw [List.mem_singleton] at hmem
    subst hmem
    exact absurd (List.prefix_nil.mp hprefix) hne
  covers address inner _ _ := by
    refine ⟨[], List.mem_singleton.mpr rfl, List.nil_prefix, ?_⟩
    intro other hother _
    exact List.mem_singleton.mp hother

/-- Below a node that is no element tree, the outermost ones are those of its children. -/
theorem Outermost.below {cursor : Cursor} {addresses : List Address}
    (hnone : cursor.element? = none)
    (h : Outermost (Cursor.among? cursor.children) addresses) :
    Outermost cursor.at? addresses where
  accepted address hmem := by
    cases address with
    | nil =>
        obtain ⟨inner, hinner, -⟩ := h.accepted [] hmem
        simp [Cursor.among?] at hinner
    | cons index address => exact h.accepted _ hmem
  apart := h.apart
  maximal address hmem above hprefix hne inner hinner := by
    cases above with
    | nil =>
        simp only [Cursor.at?, Option.some.injEq] at hinner
        rw [← hinner]
        exact hnone
    | cons index above => exact h.maximal address hmem _ hprefix hne inner hinner
  covers address inner hinner helement := by
    cases address with
    | nil =>
        simp only [Cursor.at?, Option.some.injEq] at hinner
        subst hinner
        have := isSome_element?_of_isElement helement
        rw [hnone] at this
        simp at this
    | cons index address => exact h.covers _ inner hinner helement

theorem Outermost.nil : Outermost (Cursor.among? []) [] where
  accepted address hmem := by simp at hmem
  apart := List.Pairwise.nil
  maximal address hmem := by simp at hmem
  covers address inner hinner := by
    cases address <;> simp [Cursor.among?] at hinner

/-- The address of a node once another node stands before its siblings. -/
def Address.after : Address → Address
  | [] => []
  | index :: address => (index + 1) :: address

theorem Address.after_prefix_after {first second : Address} (hfirst : first ≠ []) :
    Address.after first <+: Address.after second ↔ first <+: second := by
  cases first with
  | nil => exact absurd rfl hfirst
  | cons index first =>
      cases second with
      | nil => simp [Address.after]
      | cons other second => simp [Address.after]

theorem Cursor.among?_after (cursor : Cursor) (cursors : List Cursor) (address : Address) :
    among? (cursor :: cursors) (Address.after address) = among? cursors address := by
  cases address <;> rfl

theorem Outermost.ne_nil {cursors : List Cursor} {addresses : List Address}
    (h : Outermost (Cursor.among? cursors) addresses) {address : Address}
    (hmem : address ∈ addresses) : address ≠ [] := by
  intro hnil
  subst hnil
  obtain ⟨cursor, hfind, -⟩ := h.accepted [] hmem
  simp [Cursor.among?] at hfind

/-- The addresses in a node and those among its later siblings, seen from the parent. -/
def Address.join (first rest : List Address) : List Address :=
  first.map (0 :: ·) ++ rest.map Address.after

theorem Address.mem_join {first rest : List Address} {address : Address} :
    address ∈ Address.join first rest ↔
      (∃ inner ∈ first, address = 0 :: inner) ∨ ∃ later ∈ rest, address = Address.after later := by
  simp only [Address.join, List.mem_append, List.mem_map, eq_comm]

theorem Address.join_apart {first rest : List Address} (hrest : ∀ address ∈ rest, address ≠ [])
    (hfirst : first.Pairwise Apart) (hlater : rest.Pairwise Apart) :
    (Address.join first rest).Pairwise Apart := by
  rw [Address.join, List.pairwise_append, List.pairwise_map, List.pairwise_map]
  refine ⟨?_, ?_, ?_⟩
  · refine hfirst.imp ?_
    intro a b hab
    simpa [Apart] using hab
  · refine hlater.imp_of_mem ?_
    intro a b ha hb hab
    rw [Apart, Address.after_prefix_after (hrest a ha), Address.after_prefix_after (hrest b hb)]
    exact hab
  · intro a ha b hb
    obtain ⟨inner, -, rfl⟩ := List.mem_map.mp ha
    obtain ⟨later, hmem, rfl⟩ := List.mem_map.mp hb
    cases later with
    | nil => exact absurd rfl (hrest [] hmem)
    | cons index later => simp [Apart, Address.after]

/-- The outermost element trees among some nodes are those of the first and those among the rest. -/
theorem Outermost.join {cursor : Cursor} {cursors : List Cursor} {first rest : List Address}
    (hfirst : Outermost cursor.at? first) (hrest : Outermost (Cursor.among? cursors) rest) :
    Outermost (Cursor.among? (cursor :: cursors)) (Address.join first rest) where
  accepted address hmem := by
    rcases Address.mem_join.mp hmem with ⟨inner, hinner, rfl⟩ | ⟨later, hlater, rfl⟩
    · exact hfirst.accepted inner hinner
    · rw [Cursor.among?_after]
      exact hrest.accepted later hlater
  apart := Address.join_apart (fun _ hmem => hrest.ne_nil hmem) hfirst.apart hrest.apart
  maximal address hmem above hprefix hne found hfound := by
    cases above with
    | nil => simp [Cursor.among?] at hfound
    | cons index above =>
        rcases Address.mem_join.mp hmem with ⟨inner, hinner, rfl⟩ | ⟨later, hlater, rfl⟩
        · obtain ⟨rfl, htail⟩ := List.cons_prefix_cons.mp hprefix
          exact hfirst.maximal inner hinner above htail (by simpa using hne) found hfound
        · cases later with
          | nil => exact absurd rfl (hrest.ne_nil hlater)
          | cons other later =>
              obtain ⟨rfl, htail⟩ := List.cons_prefix_cons.mp hprefix
              have hinner : other :: above ≠ other :: later := by
                simpa [Address.after] using hne
              exact hrest.maximal _ hlater _ (List.cons_prefix_cons.mpr ⟨rfl, htail⟩) hinner
                found hfound
  covers address found hfound helement := by
    cases address with
    | nil => simp [Cursor.among?] at hfound
    | cons index address =>
        cases index with
        | zero =>
            obtain ⟨above, habove, hprefix, hunique⟩ :=
              hfirst.covers address found hfound helement
            refine ⟨0 :: above, Address.mem_join.mpr (.inl ⟨above, habove, rfl⟩),
              List.cons_prefix_cons.mpr ⟨rfl, hprefix⟩, ?_⟩
            intro other hother hotherPrefix
            rcases Address.mem_join.mp hother with ⟨inner, hinner, rfl⟩ | ⟨later, hlater, rfl⟩
            · rw [hunique inner hinner (List.cons_prefix_cons.mp hotherPrefix).2]
            · cases later with
              | nil => exact absurd rfl (hrest.ne_nil hlater)
              | cons index later => simp [Address.after] at hotherPrefix
        | succ index =>
            obtain ⟨above, habove, hprefix, hunique⟩ :=
              hrest.covers (index :: address) found hfound helement
            refine ⟨Address.after above, Address.mem_join.mpr (.inr ⟨above, habove, rfl⟩),
              (Address.after_prefix_after (hrest.ne_nil habove)).mpr hprefix, ?_⟩
            intro other hother hotherPrefix
            rcases Address.mem_join.mp hother with ⟨inner, hinner, rfl⟩ | ⟨later, hlater, rfl⟩
            · simp at hotherPrefix
            · rw [hunique later hlater]
              exact (Address.after_prefix_after (hrest.ne_nil hlater)).mp hotherPrefix

/-! ## The search -/

theorem Cursor.map_among?_join (cursor : Cursor) (cursors : List Cursor)
    (first rest : List Address) :
    (Address.join first rest).map (among? (cursor :: cursors)) =
      first.map cursor.at? ++ rest.map (among? cursors) := by
  rw [Address.join, List.map_append, List.map_map, List.map_map]
  congr 1
  exact List.map_congr_left fun address _ => among?_after cursor cursors address

mutual

-- The search decides at each node whether to go on to its children, so the
-- induction is on the node, and over the children from the first to the last.
theorem Node.trees_outermost (before : Option Kind) : ∀ node : Node,
    ∃ addresses : List Address,
      addresses.map (Cursor.at? ⟨node, before⟩) = (node.trees before).map some ∧
      Outermost (Cursor.at? ⟨node, before⟩) addresses
  | ⟨kind, start, stop, named, field, missing, children⟩ => by
    unfold Node.trees
    split
    case isTrue haccepted => exact ⟨[[]], rfl, Outermost.self haccepted⟩
    case isFalse hrefused =>
      obtain ⟨addresses, hfound, houtermost⟩ := treesIn_outermost before children
      refine ⟨addresses, ?_, Outermost.below (Option.not_isSome_iff_eq_none.mp hrefused) houtermost⟩
      rw [← hfound]
      refine List.map_congr_left fun address hmem => ?_
      cases address with
      | nil => exact absurd rfl (houtermost.ne_nil hmem)
      | cons index address => rfl

theorem treesIn_outermost (before : Option Kind) : ∀ nodes : List Node,
    ∃ addresses : List Address,
      addresses.map (Cursor.among? (Cursor.siblings before nodes)) =
        (treesIn before nodes).map some ∧
      Outermost (Cursor.among? (Cursor.siblings before nodes)) addresses
  | [] => ⟨[], rfl, Outermost.nil⟩
  | node :: nodes => by
    obtain ⟨first, hfirst, houtermost⟩ := Node.trees_outermost before node
    obtain ⟨rest, hrest, hothers⟩ := treesIn_outermost (some node.kind) nodes
    refine ⟨Address.join first rest, ?_, houtermost.join hothers⟩
    rw [Cursor.siblings, Cursor.map_among?_join, hfirst, hrest, treesIn, List.map_append]

end

/-! ## Ranges -/

mutual

/-- A property of a node and of every node below it. -/
def Node.All (p : Node → Prop) : Node → Prop
  | node@⟨_, _, _, _, _, _, children⟩ => p node ∧ AllIn p children

def AllIn (p : Node → Prop) : List Node → Prop
  | [] => True
  | node :: nodes => node.All p ∧ AllIn p nodes

end

theorem Node.all_iff {p : Node → Prop} {node : Node} :
    node.All p ↔ p node ∧ AllIn p node.children := by
  cases node
  rw [Node.All]

mutual

def Node.decideAll (p : Node → Prop) [DecidablePred p] : ∀ node : Node, Decidable (node.All p)
  | ⟨kind, start, stop, named, field, missing, children⟩ =>
    have := decideAllIn p children
    decidable_of_iff (p ⟨kind, start, stop, named, field, missing, children⟩ ∧ AllIn p children)
      Node.all_iff.symm

def decideAllIn (p : Node → Prop) [DecidablePred p] : ∀ nodes : List Node, Decidable (AllIn p nodes)
  | [] => .isTrue trivial
  | node :: nodes =>
    have := Node.decideAll p node
    have := decideAllIn p nodes
    inferInstanceAs (Decidable (node.All p ∧ AllIn p nodes))

end

instance (p : Node → Prop) [DecidablePred p] (node : Node) : Decidable (node.All p) :=
  node.decideAll p

mutual

theorem Node.All.of_mem_trees {p : Node → Prop} (before : Option Kind) : ∀ node : Node,
    node.All p → ∀ tree ∈ node.trees before, tree.node.All p
  | ⟨kind, start, stop, named, field, missing, children⟩, hnode => by
    intro tree hmem
    unfold Node.trees at hmem
    split at hmem
    case isTrue =>
      rw [List.mem_singleton.mp hmem]
      exact hnode
    case isFalse => exact AllIn.of_mem_treesIn before children (Node.all_iff.mp hnode).2 tree hmem

theorem AllIn.of_mem_treesIn {p : Node → Prop} (before : Option Kind) : ∀ nodes : List Node,
    AllIn p nodes → ∀ tree ∈ treesIn before nodes, tree.node.All p
  | [], _ => by
    intro tree hmem
    rw [treesIn] at hmem
    exact absurd hmem List.not_mem_nil
  | node :: nodes, hnodes => by
    intro tree hmem
    rw [treesIn] at hmem
    rcases List.mem_append.mp hmem with hmem | hmem
    · exact Node.All.of_mem_trees before node hnodes.1 tree hmem
    · exact AllIn.of_mem_treesIn (some node.kind) nodes hnodes.2 tree hmem

end

/-- The children of a node lie inside its range, one after another. -/
structure Node.Nests (node : Node) : Prop where
  ordered : node.start ≤ node.stop
  inside : ∀ child ∈ node.children, node.start ≤ child.start ∧ child.stop ≤ node.stop
  apart : node.children.Pairwise fun first second => first.stop ≤ second.start

theorem Node.nests_iff {node : Node} : node.Nests ↔ node.start ≤ node.stop ∧
    (∀ child ∈ node.children, node.start ≤ child.start ∧ child.stop ≤ node.stop) ∧
    node.children.Pairwise fun first second => first.stop ≤ second.start :=
  ⟨fun h => ⟨h.ordered, h.inside, h.apart⟩, fun ⟨hordered, hinside, hapart⟩ =>
    ⟨hordered, hinside, hapart⟩⟩

instance (node : Node) : Decidable node.Nests :=
  decidable_of_iff _ Node.nests_iff.symm

def Node.WellFormed (node : Node) : Prop :=
  node.All Node.Nests

instance (node : Node) : Decidable node.WellFormed :=
  inferInstanceAs (Decidable (node.All Node.Nests))

def Cursor.Within (low high : Nat) (cursor : Cursor) : Prop :=
  low ≤ cursor.node.start ∧ cursor.node.start ≤ cursor.node.stop ∧ cursor.node.stop ≤ high

/-- Ranges in increasing order, each ending before or where the next begins. -/
def Ordered (cursors : List Cursor) : Prop :=
  cursors.Pairwise fun first second => first.node.stop ≤ second.node.start

mutual

theorem Node.trees_within (before : Option Kind) : ∀ node : Node, node.WellFormed →
    (∀ tree ∈ node.trees before, tree.Within node.start node.stop) ∧
      Ordered (node.trees before)
  | ⟨kind, start, stop, named, field, missing, children⟩, hnode => by
    obtain ⟨hnests, hchildren⟩ := Node.all_iff.mp hnode
    unfold Node.trees
    split
    case isTrue =>
      refine ⟨?_, List.pairwise_singleton _ _⟩
      intro tree hmem
      rw [List.mem_singleton.mp hmem]
      exact ⟨Nat.le_refl _, hnests.ordered, Nat.le_refl _⟩
    case isFalse =>
      exact treesIn_within before start stop children hchildren hnests.inside hnests.apart

theorem treesIn_within (before : Option Kind) (low high : Nat) : ∀ nodes : List Node,
    AllIn Node.Nests nodes →
    (∀ node ∈ nodes, low ≤ node.start ∧ node.stop ≤ high) →
    nodes.Pairwise (fun first second => first.stop ≤ second.start) →
    (∀ tree ∈ treesIn before nodes, tree.Within low high) ∧ Ordered (treesIn before nodes)
  | [], _, _, _ => by
    rw [treesIn]
    exact ⟨fun tree hmem => absurd hmem List.not_mem_nil, List.Pairwise.nil⟩
  | node :: nodes, hall, hinside, hapart => by
    obtain ⟨hnode, hnodes⟩ := hall
    obtain ⟨hbefore, hapart⟩ := List.pairwise_cons.mp hapart
    obtain ⟨hlow, hhigh⟩ := hinside node List.mem_cons_self
    obtain ⟨hwithin, hordered⟩ := Node.trees_within before node hnode
    -- the later siblings lie between the end of this node and the parent's
    obtain ⟨hlater, hrest⟩ := treesIn_within (some node.kind) node.stop high nodes hnodes
      (fun other hmem => ⟨hbefore other hmem, (hinside other (List.mem_cons_of_mem _ hmem)).2⟩)
      hapart
    have hrange : node.start ≤ node.stop := (Node.all_iff.mp hnode).1.ordered
    rw [treesIn]
    refine ⟨?_, List.pairwise_append.mpr ⟨hordered, hrest, ?_⟩⟩
    · intro tree hmem
      rcases List.mem_append.mp hmem with hmem | hmem
      · obtain ⟨hstart, hsize, hstop⟩ := hwithin tree hmem
        exact ⟨by omega, hsize, by omega⟩
      · obtain ⟨hstart, hsize, hstop⟩ := hlater tree hmem
        exact ⟨by omega, hsize, hstop⟩
    · intro first hfirst second hsecond
      exact Nat.le_trans (hwithin first hfirst).2.2 (hlater second hsecond).1

end

/-- The search lists exactly the outermost element trees in a node, in the order of the program. -/
theorem trees_are_outermost (cursor : Cursor) :
    (∃ addresses : List Address,
      addresses.map cursor.at? = cursor.trees.map some ∧ Outermost cursor.at? addresses) ∧
    (cursor.node.WellFormed →
      (∀ tree ∈ cursor.trees, tree.Within cursor.node.start cursor.node.stop) ∧
        Ordered cursor.trees) := by
  constructor
  · exact Node.trees_outermost cursor.before cursor.node
  · exact Node.trees_within cursor.before cursor.node

/-- A program of an element between parentheses, after a comment, and one with an element in it. -/
def twoTrees : Node where
  kind := .program
  start := 0
  stop := 23
  children := [
    { kind := .parenthesized, start := 0, stop := 12, children := [
      { kind := .other "(", start := 0, stop := 1, named := false },
      { kind := .comment, start := 1, stop := 6 },
      { kind := .selfClosing, start := 7, stop := 11 },
      { kind := .other ")", start := 11, stop := 12, named := false }] },
    { kind := .other "expression_statement", start := 12, stop := 23, children := [
      { kind := .element, start := 12, stop := 23, children := [
        { kind := .opening, start := 12, stop := 15 },
        { kind := .selfClosing, start := 15, stop := 19 },
        { kind := .closing, start := 19, stop := 23 }] }] }]

theorem twoTrees_wellFormed : twoTrees.WellFormed := by
  simp only [twoTrees, Node.WellFormed, Node.All, AllIn]
  decide

theorem twoTrees_outermost :
    (Node.trees none twoTrees).map (fun tree => (tree.node.start, tree.node.stop)) =
      [(0, 12), (12, 23)] ∧
    (∃ addresses : List Address,
      addresses.map (Cursor.at? ⟨twoTrees, none⟩) = (Cursor.trees ⟨twoTrees, none⟩).map some ∧
        Outermost (Cursor.at? ⟨twoTrees, none⟩) addresses) ∧
    Ordered (Cursor.trees ⟨twoTrees, none⟩) :=
  ⟨by decide, (trees_are_outermost ⟨twoTrees, none⟩).1,
    ((trees_are_outermost ⟨twoTrees, none⟩).2 twoTrees_wellFormed).2⟩

end TaggedMarkup
