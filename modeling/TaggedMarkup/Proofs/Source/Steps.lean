import TaggedMarkup.Proofs.Source.Expression

/-!
# Reading step by step

The functions that read a tree are defined together, each with the proof that
it goes down.  Here is what one step of each comes to, with those proofs left
out, and that every node it goes on to is inside the one it came from.
-/

namespace TaggedMarkup

/-! ## Nodes inside a node -/

/-- A node, or one of those below it. -/
inductive Node.Inside (inner : Node) : Node → Prop
  | self : Node.Inside inner inner
  | child {outer child : Node} (hmem : child ∈ outer.children) (h : Node.Inside inner child) :
      Node.Inside inner outer

theorem Node.Inside.trans {inner middle outer : Node} (hinner : inner.Inside middle)
    (houter : middle.Inside outer) : inner.Inside outer := by
  induction houter with
  | self => exact hinner
  | child hmem _ ih => exact .child hmem ih

theorem Node.Inside.all {p : Node → Prop} {inner outer : Node} (h : inner.Inside outer)
    (hall : outer.All p) : inner.All p := by
  induction h with
  | self => exact hall
  | child hmem _ ih => exact ih (allIn_iff.mp (Node.all_iff.mp hall).2 _ hmem)

theorem Node.Inside.range {inner outer : Node} (h : inner.Inside outer)
    (hformed : outer.WellFormed) : outer.start ≤ inner.start ∧ inner.stop ≤ outer.stop := by
  induction h with
  | self => exact ⟨Nat.le_refl _, Nat.le_refl _⟩
  | child hmem _ ih =>
      obtain ⟨hnests, hall⟩ := Node.all_iff.mp hformed
      have hinside := hnests.inside _ hmem
      have hinner := ih (allIn_iff.mp hall _ hmem)
      omega

theorem Cursor.inside_of_mem_children {cursor child : Cursor} (h : child ∈ cursor.children) :
    child.node.Inside cursor.node := by
  obtain ⟨left, right, hchildren, -⟩ := mem_siblings h
  exact .child (by rw [hchildren]; simp) .self

theorem Cursor.size_lt_of_mem_content {cursor child : Cursor} (h : child ∈ cursor.content) :
    child.size < cursor.size :=
  size_lt_of_mem_children (List.mem_filter.mp h).1

theorem Cursor.inside_of_mem_content {cursor child : Cursor} (h : child ∈ cursor.content) :
    child.node.Inside cursor.node :=
  inside_of_mem_children (List.mem_filter.mp h).1

mutual

theorem Node.inside_of_element? {found : Cursor} (before : Option Kind) : ∀ node : Node,
    node.element? before = some found → found.node.Inside node
  | ⟨kind, start, stop, named, field, missing, children⟩, h => by
    unfold Node.element? at h
    split at h
    case isTrue =>
      cases h
      exact .self
    case isFalse =>
      split at h
      case isFalse => cases h
      case isTrue =>
        split at h
        · rename_i single hcontent
          subst h
          have hfound : some found ∈ contentElements before children := by simp [hcontent]
          obtain ⟨child, hmem, hinside⟩ := inside_of_mem_contentElements before children hfound
          exact .child hmem hinside
        · cases h

theorem inside_of_mem_contentElements {found : Cursor} (before : Option Kind) :
    ∀ nodes : List Node, some found ∈ contentElements before nodes →
      ∃ child ∈ nodes, found.node.Inside child
  | [], h => by simp [contentElements] at h
  | node :: nodes, h => by
    have hlater : some found ∈ contentElements (some node.kind) nodes →
        ∃ child ∈ node :: nodes, found.node.Inside child := by
      intro hmem
      obtain ⟨child, hchild, hinside⟩ :=
        inside_of_mem_contentElements (some node.kind) nodes hmem
      exact ⟨child, List.mem_cons_of_mem node hchild, hinside⟩
    unfold contentElements at h
    split at h
    · rcases List.mem_cons.mp h with hhead | htail
      · exact ⟨node, List.mem_cons_self, Node.inside_of_element? before node hhead.symm⟩
      · exact hlater htail
    · exact hlater h

end

mutual

theorem Node.inside_of_mem_trees {tree : Cursor} (before : Option Kind) : ∀ node : Node,
    tree ∈ node.trees before → tree.node.Inside node
  | ⟨kind, start, stop, named, field, missing, children⟩, h => by
    unfold Node.trees at h
    split at h
    case isTrue =>
      rw [List.mem_singleton.mp h]
      exact .self
    case isFalse =>
      obtain ⟨child, hmem, hinside⟩ := inside_of_mem_treesIn before children h
      exact .child hmem hinside

theorem inside_of_mem_treesIn {tree : Cursor} (before : Option Kind) : ∀ nodes : List Node,
    tree ∈ treesIn before nodes → ∃ child ∈ nodes, tree.node.Inside child
  | [], h => by simp [treesIn] at h
  | node :: nodes, h => by
    rw [treesIn] at h
    rcases List.mem_append.mp h with h | h
    · exact ⟨node, List.mem_cons_self, Node.inside_of_mem_trees before node h⟩
    · obtain ⟨child, hmem, hinside⟩ := inside_of_mem_treesIn (some node.kind) nodes h
      exact ⟨child, List.mem_cons_of_mem node hmem, hinside⟩

end

/-! ## Steps -/

namespace Source

variable (source : Source) (cursor : Cursor)

theorem readElement_eq : source.readElement cursor =
    if cursor.node.kind = .selfClosing then do
      let name ← source.readName cursor
      let attributes ← source.readAttributes cursor.children
      pure (.element ⟨name, attributes, [], false, source.position cursor.node.start⟩)
    else
      match cursor.openTag?, cursor.closeTag? with
      | some opening, some closing => do
        let children ← source.readChildren opening.node.stop closing.node.start opening.node.stop
          cursor.children
        if (opening.child? .name).isNone then
          pure (.fragment children (source.position cursor.node.start))
        else
          let name ← source.readName opening
          let attributes ← source.readAttributes opening.children
          pure (.element ⟨name, attributes, children, true, source.position cursor.node.start⟩)
      | _, _ => .error .missingPart := by
  unfold readElement
  dsimp only
  split
  · rfl
  · split
    · rename_i hopening hclosing
      rw [hopening, hclosing]
    · rename_i hmissing
      split
      · rename_i hopening hclosing
        exact absurd hclosing (hmissing _ _ hopening)
      · rfl

/-- What the value of an attribute is read as. -/
def readValue (name : Text) : Except Failure Attribute :=
  if cursor.node.kind = .string then do
    match ← source.textOf cursor.node with
    | [] => .error .missingPart
    | quote :: raw => pure (.string name raw.dropLast quote)
  else if cursor.node.kind = .container then
    match cursor.content with
    | [] => pure (.expression name none (source.position cursor.node.start))
    | inner :: _ =>
      if inner.node.kind = .spread then
        .error (source.report (.spreadValue name) cursor.node.start)
      else do
        let expression ← source.readExpression inner
        pure (.expression name (some expression) (source.position cursor.node.start))
  else if cursor.node.kind.isElement then do
    let tree ← source.readElement cursor
    pure (.expression name (some ⟨[.tree tree], source.position cursor.node.start⟩)
      (source.position cursor.node.start))
  else
    .error (source.report (.attributeValue name cursor.node.kind.name) cursor.node.start)

theorem readAttribute_eq : source.readAttribute cursor =
    match cursor.content with
    | [] => .error .missingPart
    | [label] => do
      let name ← source.textOf label.node
      pure (.flag name)
    | label :: value :: _ => source.textOf label.node >>= source.readValue value := by
  unfold readAttribute
  split
  · rename_i hcontent
    rw [hcontent]
  · rename_i hcontent
    rw [hcontent]
  · rename_i label value rest hcontent
    rw [hcontent]
    refine congrArg (source.textOf label.node >>= ·) (funext fun name => ?_)
    dsimp only
    unfold readValue
    split
    · rfl
    · split
      · split
        · rename_i hinner
          rw [hinner]
        · rename_i hinner
          rw [hinner]
      · rfl

/-- The expression that a spread node spreads. -/
def readOperand : Except Failure Expression :=
  match cursor.content with
  | [] => .error .missingPart
  | value :: _ => source.readExpression value

theorem readSpread_eq : source.readSpread cursor =
    match cursor.content with
    | [] => .error (source.report .expectedSpread cursor.node.start)
    | inner :: _ =>
      if inner.node.kind = .spread then do
        let expression ← source.readOperand inner
        pure (.spread expression)
      else .error (source.report .expectedSpread cursor.node.start) := by
  unfold readSpread
  split
  · rename_i hcontent
    rw [hcontent]
  · rename_i inner rest hcontent
    rw [hcontent]
    dsimp only
    split
    · split
      · rename_i hvalue
        rw [readOperand, hvalue]
        rfl
      · rename_i hvalue
        rw [readOperand, hvalue]
    · rfl

theorem readChild_eq : source.readChild cursor =
    if cursor.node.kind = .container then
      match cursor.content with
      | [] => pure [.empty]
      | inner :: _ =>
        if inner.node.kind = .spread then do
          let expression ← source.readOperand inner
          pure [.spread expression]
        else do
          let expression ← source.readExpression inner
          pure [.expression expression]
    else (do
      match ← source.readElement cursor with
      | .fragment children _ => pure children
      | .element element => pure [.element element]
      | .blank => pure [.blank]) := by
  unfold readChild
  split
  · split
    · rename_i hcontent
      rw [hcontent]
    · rename_i inner rest hcontent
      rw [hcontent]
      dsimp only
      split
      · split
        · rename_i hvalue
          rw [readOperand, hvalue]
          rfl
        · rename_i hvalue
          rw [readOperand, hvalue]
      · rfl
  · rfl

theorem readParts_cons_eq (stop start : Nat) (follows : Bool) (cursors : List Cursor) :
    source.readParts stop start follows (cursor :: cursors) = (do
      let text ← source.slice start cursor.node.start
      let text := if follows then unwrapAfter text else text
      let text := if cursor.mayUnwrap then unwrapBefore text else text
      match cursor.element? with
      | none => .error .missingPart
      | some found =>
        let tree ← source.readElement found
        let others ← source.readParts stop cursor.node.stop true cursors
        pure (codeParts text ++ .tree tree :: others)) := by
  rw [readParts]
  refine congrArg (source.slice start cursor.node.start >>= ·) (funext fun text => ?_)
  dsimp only
  split
  · rename_i hfound
    rw [hfound]
  · rename_i hfound
    rw [hfound]

end Source

end TaggedMarkup
