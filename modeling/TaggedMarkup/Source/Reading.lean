import TaggedMarkup.Element.TagName
import TaggedMarkup.Source.Basic
import TaggedMarkup.Source.Cursor
import TaggedMarkup.Source.Unwrap

/-!
# Reading element trees

The element tree that a node of a program stands for. Text is taken from the program as written; the
expressions keep their code, with the trees in it read and the line breaks around them unwrapped.
-/

namespace TaggedMarkup

namespace Source

def textOf (source : Source) (node : Node) : Except Failure Text :=
  source.slice node.start node.stop

def readName (source : Source) (tag : Cursor) : Except Failure TagName :=
  match tag.child? .name with
  | none => .error (source.report .unnamedElement tag.node.start)
  | some name => do
    let text ← source.textOf name.node
    match TagName.classify text (source.position name.node.start) with
    | .ok classified => pure classified
    | .error problem => .error (source.report problem name.node.start)

def readGap (source : Source) (start stop : Nat) : Except Failure (List Child) :=
  if start < stop then do
    let raw ← source.slice start stop
    pure [.text raw]
  else
    pure []

def codeParts (text : Text) : List Part :=
  if text.isEmpty then [] else [.code text]

end Source

namespace Cursor

def openTag? (cursor : Cursor) : Option Cursor :=
  (cursor.child? .openTag).or cursor.children.head?

def closeTag? (cursor : Cursor) : Option Cursor :=
  (cursor.child? .closeTag).or cursor.children.getLast?

theorem mem_children_of_openTag? {cursor tag : Cursor} (h : cursor.openTag? = some tag) :
    tag ∈ cursor.children := by
  rw [openTag?, Option.or_eq_some_iff] at h
  rcases h with h | ⟨-, h⟩
  · exact List.mem_of_find?_eq_some h
  · exact List.mem_of_mem_head? h

def isChildBetween (cursor : Cursor) (low high : Nat) : Bool :=
  (cursor.node.kind.isElement || cursor.node.kind == .container) &&
    decide (low ≤ cursor.node.start) && decide (cursor.node.stop ≤ high)

end Cursor

namespace Source

mutual

def readElement (source : Source) (cursor : Cursor) : Except Failure Tree :=
  let position := source.position cursor.node.start
  if cursor.node.kind = .selfClosing then do
    let name ← source.readName cursor
    let attributes ← readAttributes source cursor.children
    pure (.element ⟨name, attributes, [], false, position⟩)
  else
    match _hopen : cursor.openTag?, cursor.closeTag? with
    | some opening, some closing => do
      let low := opening.node.stop
      let children ← readChildren source low closing.node.start low cursor.children
      -- a tag without a name is that of a fragment
      if (opening.child? .name).isNone then
        pure (.fragment children position)
      else
        let name ← source.readName opening
        let attributes ← readAttributes source opening.children
        pure (.element ⟨name, attributes, children, true, position⟩)
    | _, _ => .error .missingPart
termination_by 4 * cursor.size
decreasing_by
  · have := cursor.total_children
    omega
  · have := cursor.total_children
    omega
  · have := Cursor.size_lt_of_mem_children (Cursor.mem_children_of_openTag? (by assumption))
    have := opening.total_children
    omega

def readAttributes (source : Source) (cursors : List Cursor) : Except Failure (List Attribute) :=
  match cursors with
  | [] => pure []
  | cursor :: cursors =>
    if !cursor.node.named then readAttributes source cursors
    else if cursor.node.kind = .attr then do
      let first ← readAttribute source cursor
      let others ← readAttributes source cursors
      pure (first :: others)
    else if cursor.node.kind = .container then do
      let first ← readSpread source cursor
      let others ← readAttributes source cursors
      pure (first :: others)
    else readAttributes source cursors
termination_by 4 * Cursor.total cursors + 1
decreasing_by
  all_goals
    have := cursor.size_pos
    simp only [Cursor.total]
    omega

def readAttribute (source : Source) (cursor : Cursor) : Except Failure Attribute :=
  match _hparts : cursor.content with
  | [] => .error .missingPart
  | [nameNode] => do
    let name ← source.textOf nameNode.node
    pure (.flag name)
  | nameNode :: value :: _ => do
    let name ← source.textOf nameNode.node
    let position := source.position value.node.start
    if value.node.kind = .string then
      match ← source.textOf value.node with
      | [] => .error .missingPart
      -- the node covers both quotes
      | quote :: raw => pure (.string name raw.dropLast quote)
    else if value.node.kind = .container then
      match _hinner : value.content with
      | [] => pure (.expression name none position)
      | inner :: _ =>
        if inner.node.kind = .spread then
          .error (source.report (.spreadValue name) value.node.start)
        else
          let expression ← readExpression source inner
          pure (.expression name (some expression) position)
    else if value.node.kind.isElement then
      let tree ← readElement source value
      pure (.expression name (some ⟨[.tree tree], position⟩) position)
    else
      .error (source.report (.attributeValue name value.node.kind.name) value.node.start)
termination_by 4 * cursor.size
decreasing_by
  · have houter := Cursor.total_content_le _hparts
    have hinner := Cursor.total_content_le _hinner
    simp only [Cursor.total] at houter
    omega
  · have houter := Cursor.total_content_le _hparts
    simp only [Cursor.total] at houter
    omega

def readSpread (source : Source) (cursor : Cursor) : Except Failure Attribute :=
  match _hinner : cursor.content with
  | [] => .error (source.report .expectedSpread cursor.node.start)
  | inner :: _ =>
    if inner.node.kind = .spread then
      match _hvalue : inner.content with
      | [] => .error .missingPart
      | value :: _ => do
        let expression ← readExpression source value
        pure (.spread expression)
    else .error (source.report .expectedSpread cursor.node.start)
termination_by 4 * cursor.size
decreasing_by
  have := Cursor.total_content_le _hinner
  have := Cursor.total_content_le _hvalue
  omega

/-- The children from offset `start` on; of the nodes given only those between `low` and `high`
count. -/
def readChildren (source : Source) (low high start : Nat) (cursors : List Cursor) :
    Except Failure (List Child) :=
  match cursors with
  | [] => source.readGap start high
  | cursor :: cursors =>
    if cursor.isChildBetween low high then do
      let gap ← source.readGap start cursor.node.start
      let here ← readChild source cursor
      let others ← readChildren source low high cursor.node.stop cursors
      pure (gap ++ here ++ others)
    else readChildren source low high start cursors
termination_by 4 * Cursor.total cursors + 2
decreasing_by
  all_goals
    have := cursor.size_pos
    simp only [Cursor.total]
    omega

def readChild (source : Source) (cursor : Cursor) : Except Failure (List Child) :=
  if cursor.node.kind = .container then
    match _hinner : cursor.content with
    | [] => pure [.empty]
    | inner :: _ =>
      if inner.node.kind = .spread then
        match _hvalue : inner.content with
        | [] => .error .missingPart
        | value :: _ => do
          let expression ← readExpression source value
          pure [.spread expression]
      else do
        let expression ← readExpression source inner
        pure [.expression expression]
  else do
    match ← readElement source cursor with
    -- a fragment adds its own children in its place
    | .fragment children _ => pure children
    | .element element => pure [.element element]
    | .blank => pure [.blank]
termination_by 4 * cursor.size + 1
decreasing_by
  · have := Cursor.total_content_le _hinner
    have := Cursor.total_content_le _hvalue
    omega
  · have := Cursor.total_content_le _hinner
    omega
  · omega

def readExpression (source : Source) (cursor : Cursor) : Except Failure Expression := do
  let parts ← readParts source cursor.node.stop cursor.node.start false cursor.trees
  pure ⟨parts, source.position cursor.node.start⟩
termination_by 4 * cursor.size + 2
decreasing_by
  have := cursor.total_trees_le
  omega

/-- The code from offset `start` up to `stop`, with some trees in it; if `follows`, a tree ends at
`start`. -/
def readParts (source : Source) (stop start : Nat) (follows : Bool) (trees : List Cursor) :
    Except Failure (List Part) :=
  match trees with
  | [] => do
    let text ← source.slice start stop
    pure (codeParts (if follows then unwrapAfter text else text))
  | cursor :: cursors => do
    let text ← source.slice start cursor.node.start
    let text := if follows then unwrapAfter text else text
    let text := if cursor.mayUnwrap then unwrapBefore text else text
    match _hfound : cursor.element? with
    | none => .error .missingPart
    | some found =>
      let tree ← readElement source found
      let others ← readParts source stop cursor.node.stop true cursors
      pure (codeParts text ++ .tree tree :: others)
termination_by 4 * Cursor.total trees + 1
decreasing_by
  · have := Cursor.size_le_of_element? _hfound
    simp only [Cursor.total]
    omega
  · have := cursor.size_pos
    simp only [Cursor.total]
    omega

end

end Source

end TaggedMarkup
