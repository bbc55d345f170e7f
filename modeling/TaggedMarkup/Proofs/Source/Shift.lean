import Mathlib.Data.List.Forall2
import TaggedMarkup.Proofs.Element.Essential
import TaggedMarkup.Proofs.Source.Steps

/-!
# Trees that stand elsewhere

A tree may stand at one offset in one program and at another in another.  If
the nodes and the bytes below it are the same, it is read as the same tree, up
to the places of its parts.  What stands around it has no say: only the line
breaks before trees in expressions depend on what stands before them, and there
the brace that opens the expression is in the way.
-/

namespace TaggedMarkup

/-! ## Shifted nodes -/

mutual

/-- A node as it stands so many bytes later. -/
def Node.shift (offset : Nat) : Node → Node
  | ⟨kind, start, stop, named, field, missing, children⟩ =>
    ⟨kind, start + offset, stop + offset, named, field, missing, shiftAll offset children⟩

def shiftAll (offset : Nat) : List Node → List Node
  | [] => []
  | node :: nodes => node.shift offset :: shiftAll offset nodes

end

section Shift

variable (offset : Nat) (node : Node)

@[simp] theorem Node.shift_kind : (node.shift offset).kind = node.kind := by
  cases node
  rw [Node.shift]

@[simp] theorem Node.shift_start : (node.shift offset).start = node.start + offset := by
  cases node
  rw [Node.shift]

@[simp] theorem Node.shift_stop : (node.shift offset).stop = node.stop + offset := by
  cases node
  rw [Node.shift]

@[simp] theorem Node.shift_named : (node.shift offset).named = node.named := by
  cases node
  rw [Node.shift]

@[simp] theorem Node.shift_field : (node.shift offset).field = node.field := by
  cases node
  rw [Node.shift]

@[simp] theorem Node.shift_children :
    (node.shift offset).children = shiftAll offset node.children := by
  cases node
  rw [Node.shift]

@[simp] theorem Node.shift_isContent : (node.shift offset).isContent = node.isContent := by
  simp [Node.isContent]

end Shift

/-- A node without the part it plays in its parent. -/
def Node.detached (node : Node) : Node :=
  { node with field := none }

theorem Node.eq_shift_of_detached {node other : Node} {offset : Nat}
    (h : other.detached = node.detached.shift offset) :
    { other with field := node.field } = node.shift offset := by
  cases node
  cases other
  simp only [Node.detached, Node.shift, Node.mk.injEq, true_and] at h ⊢
  exact h

/-- The same node, so many bytes later, whatever stands before either. -/
def Cursor.Moved (offset : Nat) (first second : Cursor) : Prop :=
  second.node = first.node.shift offset

/-- The same node after the same, so many bytes later. -/
def Cursor.shift (offset : Nat) (cursor : Cursor) : Cursor :=
  ⟨cursor.node.shift offset, cursor.before⟩

@[simp] theorem Cursor.shift_node (offset : Nat) (cursor : Cursor) :
    (cursor.shift offset).node = cursor.node.shift offset := rfl

section Moved

variable {offset : Nat} {first second : Cursor}

theorem Cursor.moved_shift (cursor : Cursor) : cursor.Moved offset (cursor.shift offset) := rfl

theorem siblings_moved (before after : Option Kind) (nodes : List Node) :
    List.Forall₂ (Cursor.Moved offset) (Cursor.siblings before nodes)
      (Cursor.siblings after (shiftAll offset nodes)) := by
  induction nodes generalizing before after with
  | nil =>
      rw [shiftAll]
      exact .nil
  | cons node nodes ih =>
      rw [shiftAll]
      exact .cons rfl (ih _ _)

theorem siblings_shift (before : Option Kind) (nodes : List Node) :
    Cursor.siblings before (shiftAll offset nodes) =
      (Cursor.siblings before nodes).map (Cursor.shift offset) := by
  induction nodes generalizing before with
  | nil => simp [shiftAll, Cursor.siblings]
  | cons node nodes ih => simp [shiftAll, Cursor.siblings, Cursor.shift, ih]

theorem Cursor.Moved.children (h : first.Moved offset second) :
    List.Forall₂ (Cursor.Moved offset) first.children second.children := by
  rw [Cursor.children, Cursor.children, h, Node.shift_children]
  exact siblings_moved _ _ _

theorem Cursor.Moved.content (h : first.Moved offset second) :
    List.Forall₂ (Cursor.Moved offset) first.content second.content := by
  refine List.rel_filter ?_ h.children
  intro inner other hinner
  change inner.node.isContent = true ↔ other.node.isContent = true
  rw [hinner, Node.shift_isContent]

theorem filter_isContent_shift (cursors : List Cursor) :
    (cursors.map (Cursor.shift offset)).filter (·.node.isContent) =
      (cursors.filter (·.node.isContent)).map (Cursor.shift offset) := by
  rw [List.filter_map]
  congr 2
  funext cursor
  exact Node.shift_isContent offset cursor.node

theorem Cursor.content_shift (cursor : Cursor) :
    (cursor.shift offset).content = cursor.content.map (Cursor.shift offset) := by
  rw [Cursor.content, Cursor.children, Cursor.shift, Node.shift_children, siblings_shift,
    filter_isContent_shift]
  rfl

/-- In braces, something stands before the content: the opening brace. -/
def Node.Braced (node : Node) : Prop :=
  node.kind = .container → node.children.head?.all (!·.isContent) = true

instance (node : Node) : Decidable node.Braced :=
  inferInstanceAs (Decidable (_ → _))

-- the brace is what the content stands after, so nothing outside the braces matters
theorem Cursor.Moved.content_of_braced (h : first.Moved offset second)
    (hkind : first.node.kind = .container) (hbraced : first.node.Braced) :
    second.content = first.content.map (Cursor.shift offset) := by
  have hhead := hbraced hkind
  rw [Cursor.content, Cursor.content, Cursor.children, Cursor.children, h, Node.shift_children]
  cases hchildren : first.node.children with
  | nil => rfl
  | cons brace nodes =>
      rw [hchildren, List.head?_cons, Option.all_some, Bool.not_eq_eq_eq_not,
        Bool.not_true] at hhead
      rw [shiftAll, Cursor.siblings, Cursor.siblings, Node.shift_kind, siblings_shift,
        List.filter_cons_of_neg (by simp [hhead]), List.filter_cons_of_neg (by simp [hhead]),
        filter_isContent_shift]

/-! ## What is found in a shifted node -/

theorem find?_rel {α β : Type} {related : α → β → Prop} {p : α → Bool} {q : β → Bool}
    {xs : List α} {ys : List β} (h : List.Forall₂ related xs ys)
    (hsame : ∀ x y, related x y → q y = p x) :
    Option.Rel related (xs.find? p) (ys.find? q) := by
  induction h with
  | nil => exact .none
  | @cons x y xs ys hhead _ ih =>
      rw [List.find?_cons, List.find?_cons, hsame x y hhead]
      cases p x with
      | true => exact .some hhead
      | false => exact ih

theorem head?_rel {α β : Type} {related : α → β → Prop} {xs : List α} {ys : List β}
    (h : List.Forall₂ related xs ys) : Option.Rel related xs.head? ys.head? := by
  cases h with
  | nil => exact .none
  | cons hhead _ => exact .some hhead

theorem or_rel {α β : Type} {related : α → β → Prop} {x x' : Option α} {y y' : Option β}
    (h : Option.Rel related x y) (h' : Option.Rel related x' y') :
    Option.Rel related (x.or x') (y.or y') := by
  cases h with
  | none => exact h'
  | some h => exact .some h

theorem isNone_of_rel {α β : Type} {related : α → β → Prop} {x : Option α} {y : Option β}
    (h : Option.Rel related x y) : y.isNone = x.isNone := by
  cases h <;> rfl

mutual

theorem Node.element?_shift (before after : Option Kind) : ∀ node : Node,
    Option.Rel (Cursor.Moved offset) (node.element? before) ((node.shift offset).element? after)
  | ⟨kind, start, stop, named, field, missing, children⟩ => by
    rw [Node.shift, Node.element?, Node.element?]
    split
    case isTrue =>
      refine .some ?_
      rw [Cursor.Moved, Node.shift]
    case isFalse =>
      split
      case isFalse => exact .none
      case isTrue =>
        have hcontent := contentElements_shift before after children
        generalize contentElements before children = found at hcontent
        generalize contentElements after (shiftAll offset children) = other at hcontent
        cases hcontent with
        | nil => exact .none
        | cons hhead htail =>
            cases htail with
            | nil => exact hhead
            | cons => exact .none

theorem contentElements_shift (before after : Option Kind) : ∀ nodes : List Node,
    List.Forall₂ (Option.Rel (Cursor.Moved offset)) (contentElements before nodes)
      (contentElements after (shiftAll offset nodes))
  | [] => by
    rw [shiftAll, contentElements, contentElements]
    exact .nil
  | node :: nodes => by
    have htail := contentElements_shift (some node.kind) (some node.kind) nodes
    rw [shiftAll, contentElements, contentElements, Node.shift_isContent, Node.shift_kind]
    split
    · exact .cons (Node.element?_shift before after node) htail
    · exact htail

end

theorem Cursor.Moved.element? (h : first.Moved offset second) :
    Option.Rel (Cursor.Moved offset) first.element? second.element? := by
  rw [Cursor.element?, Cursor.element?, h]
  exact Node.element?_shift _ _ _

mutual

theorem Node.trees_shift (before : Option Kind) : ∀ node : Node,
    (node.shift offset).trees before = (node.trees before).map (Cursor.shift offset)
  | ⟨kind, start, stop, named, field, missing, children⟩ => by
    have hfound : Option.Rel (Cursor.Moved offset)
        (Node.element? before ⟨kind, start, stop, named, field, missing, children⟩)
        ((Node.shift offset ⟨kind, start, stop, named, field, missing, children⟩).element?
          before) :=
      Node.element?_shift before before _
    have hshift := Node.shift.eq_def offset ⟨kind, start, stop, named, field, missing, children⟩
    dsimp only at hshift
    rw [hshift] at hfound ⊢
    rw [Node.trees, Node.trees]
    generalize Node.element? before ⟨kind, start, stop, named, field, missing, children⟩ = found
      at hfound
    generalize Node.element? before ⟨kind, start + offset, stop + offset, named, field, missing,
      shiftAll offset children⟩ = other at hfound
    cases hfound with
    | none => exact treesIn_shift before children
    | some _ => simp [Cursor.shift, hshift]

theorem treesIn_shift (before : Option Kind) : ∀ nodes : List Node,
    treesIn before (shiftAll offset nodes) = (treesIn before nodes).map (Cursor.shift offset)
  | [] => by simp [shiftAll, treesIn]
  | node :: nodes => by
    rw [shiftAll, treesIn, treesIn, List.map_append, Node.shift_kind,
      Node.trees_shift before node, treesIn_shift (some node.kind) nodes]

end

end Moved

end TaggedMarkup
