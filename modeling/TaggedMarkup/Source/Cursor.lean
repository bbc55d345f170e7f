import TaggedMarkup.Source.Node

/-!
# Nodes in their context

A cursor is a node together with the kind of what stands just before it in the program, if anything
does: the sibling before it, or before the nearest of its ancestors that has one. The element trees
of a program are found by walking down with cursors.
-/

namespace TaggedMarkup

/-- A node and the kind of what stands before it. -/
structure Cursor where
  node : Node
  before : Option Kind := none

namespace Cursor

def siblings (before : Option Kind) : List Node → List Cursor
  | [] => []
  | node :: nodes => ⟨node, before⟩ :: siblings (some node.kind) nodes

def children (cursor : Cursor) : List Cursor :=
  siblings cursor.before cursor.node.children

/-- The named nodes of a node, comments left out. -/
def content (cursor : Cursor) : List Cursor :=
  cursor.children.filter (·.node.isContent)

def child? (cursor : Cursor) (field : Field) : Option Cursor :=
  cursor.children.find? (·.node.field == some field)

def mayUnwrap (cursor : Cursor) : Bool :=
  cursor.before.any (!·.keepsLineBreak)

end Cursor

/-! ## Element trees -/

mutual

/-- The element that a node is, perhaps between parentheses and among comments. -/
def Node.element? (before : Option Kind) : Node → Option Cursor
  | node@⟨kind, _, _, _, _, _, children⟩ =>
    if kind.isElement then some ⟨node, before⟩
    else if kind = .parenthesized then
      match contentElements before children with
      | [found] => found
      | _ => none
    else none

def contentElements (before : Option Kind) : List Node → List (Option Cursor)
  | [] => []
  | node :: nodes =>
    if node.isContent then
      node.element? before :: contentElements (some node.kind) nodes
    else
      contentElements (some node.kind) nodes

end

mutual

def Node.trees (before : Option Kind) : Node → List Cursor
  | node@⟨_, _, _, _, _, _, children⟩ =>
    if (node.element? before).isSome then [⟨node, before⟩] else treesIn before children

def treesIn (before : Option Kind) : List Node → List Cursor
  | [] => []
  | node :: nodes => node.trees before ++ treesIn (some node.kind) nodes

end

namespace Cursor

def element? (cursor : Cursor) : Option Cursor :=
  cursor.node.element? cursor.before

def trees (cursor : Cursor) : List Cursor :=
  cursor.node.trees cursor.before

/-! ## Size -/

def size (cursor : Cursor) : Nat :=
  cursor.node.size

def total : List Cursor → Nat
  | [] => 0
  | cursor :: cursors => cursor.size + total cursors

theorem size_pos (cursor : Cursor) : 0 < cursor.size :=
  cursor.node.size_pos

theorem total_siblings (before : Option Kind) (nodes : List Node) :
    total (siblings before nodes) = Node.sizeAll nodes := by
  induction nodes generalizing before with
  | nil => rfl
  | cons node nodes ih => simp [siblings, total, size, Node.sizeAll, ih]

theorem total_children (cursor : Cursor) : 1 + total cursor.children = cursor.size := by
  rw [children, total_siblings, size, Node.size_eq]

theorem total_append (first second : List Cursor) :
    total (first ++ second) = total first + total second := by
  induction first with
  | nil => simp [total]
  | cons cursor cursors ih => simp [total, ih, Nat.add_assoc]

theorem total_filter_le (p : Cursor → Bool) (cursors : List Cursor) :
    total (cursors.filter p) ≤ total cursors := by
  induction cursors with
  | nil => simp [total]
  | cons cursor cursors ih =>
    rw [List.filter_cons]
    split <;> simp only [total] <;> omega

theorem size_le_total {cursor : Cursor} {cursors : List Cursor} (h : cursor ∈ cursors) :
    cursor.size ≤ total cursors := by
  induction cursors with
  | nil => simp at h
  | cons head cursors ih =>
    rcases List.mem_cons.1 h with rfl | hmem
    · simp [total]
    · have := ih hmem
      simp only [total]
      omega

theorem size_lt_of_mem_children {cursor child : Cursor} (h : child ∈ cursor.children) :
    child.size < cursor.size := by
  have := size_le_total h
  have := cursor.total_children
  omega

theorem total_content_lt (cursor : Cursor) : total cursor.content < cursor.size := by
  have := total_filter_le (·.node.isContent) cursor.children
  have := cursor.total_children
  rw [content]
  omega

theorem total_content_le {cursor first : Cursor} {others : List Cursor}
    (h : cursor.content = first :: others) : first.size + total others < cursor.size := by
  have := cursor.total_content_lt
  simpa [h, total] using this

end Cursor

mutual

theorem Node.size_le_of_element? (before : Option Kind) (found : Cursor) :
    ∀ node : Node, node.element? before = some found → found.size ≤ node.size
  | ⟨kind, start, stop, named, field, missing, children⟩, h => by
    unfold Node.element? at h
    split at h
    · simp only [Option.some.injEq] at h
      subst h
      exact Nat.le_refl _
    · split at h
      · split at h
        · rename_i single hcontent
          subst h
          have := size_le_of_mem_contentElements before found children (by simp [hcontent])
          simp only [Node.size]
          omega
        · simp at h
      · simp at h

theorem size_le_of_mem_contentElements (before : Option Kind) (found : Cursor) :
    ∀ nodes : List Node, some found ∈ contentElements before nodes →
      found.size ≤ Node.sizeAll nodes
  | [], h => by simp [contentElements] at h
  | node :: nodes, h => by
    unfold contentElements at h
    split at h
    · rcases List.mem_cons.1 h with hhead | htail
      · have := Node.size_le_of_element? before found node hhead.symm
        simp only [Node.sizeAll]
        omega
      · have := size_le_of_mem_contentElements (some node.kind) found nodes htail
        simp only [Node.sizeAll]
        omega
    · have := size_le_of_mem_contentElements (some node.kind) found nodes h
      simp only [Node.sizeAll]
      omega

end

mutual

theorem Node.total_trees_le (before : Option Kind) :
    ∀ node : Node, Cursor.total (node.trees before) ≤ node.size
  | ⟨kind, start, stop, named, field, missing, children⟩ => by
    unfold Node.trees
    split
    · simp [Cursor.total, Cursor.size]
    · have := total_treesIn_le before children
      simp only [Node.size]
      omega

theorem total_treesIn_le (before : Option Kind) :
    ∀ nodes : List Node, Cursor.total (treesIn before nodes) ≤ Node.sizeAll nodes
  | [] => by simp [treesIn, Cursor.total, Node.sizeAll]
  | node :: nodes => by
    have := Node.total_trees_le before node
    have := total_treesIn_le (some node.kind) nodes
    simp only [treesIn, Cursor.total_append, Node.sizeAll]
    omega

end

theorem Cursor.size_le_of_element? {cursor found : Cursor} (h : cursor.element? = some found) :
    found.size ≤ cursor.size :=
  Node.size_le_of_element? _ _ _ h

theorem Cursor.total_trees_le (cursor : Cursor) : total cursor.trees ≤ cursor.size :=
  Node.total_trees_le _ _

end TaggedMarkup
