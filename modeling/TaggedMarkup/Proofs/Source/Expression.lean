import TaggedMarkup.Source.Reading
import TaggedMarkup.Proofs.Document.Splice
import TaggedMarkup.Proofs.Source.Outermost

/-!
# Code around trees

An expression is read as its code with the trees in it.  The search for the
trees goes down from a node to its children, and what it finds below one node
stands together in the list, between what stands before that node in the
program and what stands after it.  The code between two trees is taken from the
program and unwrapped at the end of the one and at the start of the other.
-/

namespace TaggedMarkup

/-! ## The nodes that the search comes to -/

/-- The search for trees in one node comes to another. -/
inductive Cursor.Visits : Cursor → Cursor → Prop
  | self (cursor : Cursor) : Cursor.Visits cursor cursor
  | child {top child cursor : Cursor} (hopens : top.element? = none)
      (hmem : child ∈ top.children) (h : Cursor.Visits child cursor) : Cursor.Visits top cursor

theorem Cursor.Visits.trans {top middle cursor : Cursor} (hfirst : top.Visits middle)
    (hsecond : middle.Visits cursor) : top.Visits cursor := by
  induction hfirst with
  | self => exact hsecond
  | child hopens hmem _ ih => exact .child hopens hmem (ih hsecond)

/-- What stands before the node after some siblings. -/
def contextAfter : Option Kind → List Node → Option Kind
  | before, [] => before
  | _, node :: nodes => contextAfter (some node.kind) nodes

theorem treesIn_append (before : Option Kind) (first second : List Node) :
    treesIn before (first ++ second) =
      treesIn before first ++ treesIn (contextAfter before first) second := by
  induction first generalizing before with
  | nil => simp [treesIn, contextAfter]
  | cons node first ih => simp [treesIn, contextAfter, ih]

theorem mem_siblings {before : Option Kind} {nodes : List Node} {cursor : Cursor}
    (h : cursor ∈ Cursor.siblings before nodes) :
    ∃ left right, nodes = left ++ cursor.node :: right ∧
      cursor.before = contextAfter before left := by
  induction nodes generalizing before with
  | nil => simp [Cursor.siblings] at h
  | cons node nodes ih =>
      rcases List.mem_cons.mp h with rfl | h
      · exact ⟨[], nodes, rfl, rfl⟩
      · obtain ⟨left, right, rfl, hbefore⟩ := ih h
        exact ⟨node :: left, right, rfl, hbefore⟩

theorem allIn_iff {p : Node → Prop} {nodes : List Node} :
    AllIn p nodes ↔ ∀ node ∈ nodes, node.All p := by
  induction nodes with
  | nil => simp [AllIn]
  | cons node nodes ih => simp [AllIn, ih]

theorem Cursor.trees_of_isSome {cursor : Cursor} (h : cursor.element?.isSome = true) :
    cursor.trees = [cursor] := by
  obtain ⟨⟨kind, start, stop, named, field, missing, children⟩, before⟩ := cursor
  rw [Cursor.element?] at h
  rw [Cursor.trees, Node.trees, if_pos h]

theorem Cursor.trees_of_none {cursor : Cursor} (h : cursor.element? = none) :
    cursor.trees = treesIn cursor.before cursor.node.children := by
  obtain ⟨⟨kind, start, stop, named, field, missing, children⟩, before⟩ := cursor
  rw [Cursor.element?] at h
  rw [Cursor.trees, Node.trees, if_neg (by simp [h])]

/-- Some trees stand before an offset, and others after another. -/
def Surround (low high : Nat) (earlier later : List Cursor) : Prop :=
  (∀ tree ∈ earlier, tree.node.stop ≤ low) ∧ ∀ tree ∈ later, high ≤ tree.node.start

/-- Among the trees of the children of a node, those of one child stand together. -/
theorem treesIn_surround {node : Node} {left right : List Node} {child : Node}
    (before : Option Kind) (hformed : node.WellFormed)
    (hchildren : node.children = left ++ child :: right) :
    child.WellFormed ∧ node.start ≤ child.start ∧ child.start ≤ child.stop ∧
      child.stop ≤ node.stop ∧
      Surround child.start child.stop (treesIn before left)
        (treesIn (contextAfter before (left ++ [child])) right) := by
  obtain ⟨hnests, hall⟩ := Node.all_iff.mp hformed
  have hwell := allIn_iff.mp hall
  have hinside := hnests.inside
  have hapart := hnests.apart
  rw [hchildren] at hwell hinside hapart
  obtain ⟨hleft, hrest, hbetween⟩ := List.pairwise_append.mp hapart
  obtain ⟨hafter, hright⟩ := List.pairwise_cons.mp hrest
  have hchild : child.WellFormed := hwell child (by simp)
  obtain ⟨hlow, hhigh⟩ := hinside child (by simp)
  refine ⟨hchild, hlow, (Node.all_iff.mp hchild).1.ordered, hhigh, ?_, ?_⟩
  · intro tree hmem
    have hwithin := (treesIn_within before node.start child.start left
      (allIn_iff.mpr fun other hother => hwell other (by simp [hother]))
      (fun other hother => ⟨(hinside other (by simp [hother])).1,
        hbetween other hother child List.mem_cons_self⟩) hleft).1
    exact (hwithin tree hmem).2.2
  · intro tree hmem
    have hwithin := (treesIn_within (contextAfter before (left ++ [child])) child.stop node.stop
      right (allIn_iff.mpr fun other hother => hwell other (by simp [hother]))
      (fun other hother => ⟨hafter other hother, (hinside other (by simp [hother])).2⟩) hright).1
    exact (hwithin tree hmem).1

theorem contextAfter_append (before : Option Kind) (first second : List Node) :
    contextAfter before (first ++ second) = contextAfter (contextAfter before first) second := by
  induction first generalizing before with
  | nil => rfl
  | cons node first ih => exact ih (some node.kind)

/-- What the search finds below a node that it comes to stands together in what it finds. -/
theorem Cursor.Visits.surround {top cursor : Cursor} (h : top.Visits cursor)
    (hformed : top.node.WellFormed) :
    cursor.node.WellFormed ∧ top.node.start ≤ cursor.node.start ∧
      cursor.node.stop ≤ top.node.stop ∧
      ∃ earlier later, top.trees = earlier ++ cursor.trees ++ later ∧
        Surround cursor.node.start cursor.node.stop earlier later := by
  induction h with
  | self cursor =>
      refine ⟨hformed, Nat.le_refl _, Nat.le_refl _, [], [], by simp, ?_, ?_⟩ <;> simp
  | @child top child cursor hopens hmem _ ih =>
      obtain ⟨left, right, hchildren, hbefore⟩ := mem_siblings hmem
      obtain ⟨hchild, hlow, -, hhigh, hleft, hright⟩ :=
        treesIn_surround top.before hformed hchildren
      obtain ⟨hcursor, hstart, hstop, earlier, later, htrees, hearlier, hlater⟩ := ih hchild
      refine ⟨hcursor, by omega, by omega, treesIn top.before left ++ earlier,
        later ++ treesIn (contextAfter top.before (left ++ [child.node])) right, ?_, ?_, ?_⟩
      · have hown : child.node.trees (contextAfter top.before left) =
            earlier ++ cursor.trees ++ later := by
          rw [← hbefore]
          exact htrees
        rw [Cursor.trees_of_none hopens, hchildren, treesIn_append, treesIn, hown,
          contextAfter_append]
        simp [contextAfter]
      · intro tree hmem
        rcases List.mem_append.mp hmem with hmem | hmem
        · exact Nat.le_trans (hleft tree hmem) hstart
        · exact hearlier tree hmem
      · intro tree hmem
        rcases List.mem_append.mp hmem with hmem | hmem
        · exact hlater tree hmem
        · exact Nat.le_trans hstop (hright tree hmem)

/-! ## Slices -/

theorem drop_take_append {α : Type} {bytes : List α} {start middle stop : Nat}
    (hstart : start ≤ middle) (hstop : middle ≤ stop) :
    (bytes.take stop).drop start =
      (bytes.take middle).drop start ++ (bytes.take stop).drop middle := by
  have hwidth : stop - start = middle - start + (stop - middle) := by omega
  have hmiddle : start + (middle - start) = middle := by omega
  rw [List.drop_take, List.drop_take, List.drop_take, hwidth, List.take_add, List.drop_drop,
    hmiddle]

theorem slice_append {code : Text} (file : Text) {start middle stop : Nat}
    (hstart : start ≤ middle) (hstop : middle ≤ stop)
    (hfirst : Utf8.IsBoundary code start) (hsecond : Utf8.IsBoundary code middle)
    (hthird : Utf8.IsBoundary code stop) :
    ∃ first second, (Source.ofText code file).slice start middle = .ok first ∧
      (Source.ofText code file).slice middle stop = .ok second ∧
      (Source.ofText code file).slice start stop = .ok (first ++ second) := by
  obtain ⟨first, hslice, hbytes⟩ := Source.slice_ofText file hfirst hsecond
  obtain ⟨second, hslice', hbytes'⟩ := Source.slice_ofText file hsecond hthird
  obtain ⟨whole, hwhole, hbytes''⟩ := Source.slice_ofText file hfirst hthird
  refine ⟨first, second, hslice, hslice', ?_⟩
  rw [hwhole, Except.ok.injEq]
  apply Utf8.encode_injective
  rw [hbytes'', Utf8.encode_append, hbytes, hbytes', drop_take_append hstart hstop]

/-! ## Parts -/

/-- The code between two trees: `follows` says that there is one before it, and `unwraps` that
there is one after it whose line break may be removed. -/
def unwrapGap (follows unwraps : Bool) (text : Text) : Text :=
  let text := if follows then unwrapAfter text else text
  if unwraps then unwrapBefore text else text

namespace Source

theorem readParts_nil {source : Source} {stop start : Nat} {follows : Bool} {parts : List Part}
    (h : source.readParts stop start follows [] = .ok parts) :
    ∃ text, source.slice start stop = .ok text ∧
      parts = codeParts (unwrapGap follows false text) := by
  rw [readParts] at h
  obtain ⟨text, hslice, h⟩ := exists_of_bind_eq_ok h
  cases h
  exact ⟨text, hslice, rfl⟩

theorem readParts_cons {source : Source} {stop start : Nat} {follows : Bool} {cursor : Cursor}
    {cursors : List Cursor} {parts : List Part}
    (h : source.readParts stop start follows (cursor :: cursors) = .ok parts) :
    ∃ text found tree others, source.slice start cursor.node.start = .ok text ∧
      cursor.element? = some found ∧ source.readElement found = .ok tree ∧
      source.readParts stop cursor.node.stop true cursors = .ok others ∧
      parts = codeParts (unwrapGap follows cursor.mayUnwrap text) ++ .tree tree :: others := by
  rw [readParts] at h
  obtain ⟨text, hslice, h⟩ := exists_of_bind_eq_ok h
  dsimp only at h
  split at h
  · cases h
  · rename_i found hfound
    obtain ⟨tree, htree, h⟩ := exists_of_bind_eq_ok h
    obtain ⟨others, hothers, h⟩ := exists_of_bind_eq_ok h
    cases h
    exact ⟨text, found, tree, others, hslice, hfound, htree, hothers, rfl⟩

/-- The code from `start` up to `stop` and the trees in it, read as parts, where `unwrap` says what
becomes of the code between two trees; `follows` says that a tree ends at `start`, and `unwraps`
that one begins at `stop` whose line break may be removed. -/
inductive Stretch (source : Source) (unwrap : Bool → Bool → Text → Text) (unwraps : Bool)
    (stop : Nat) : Nat → Bool → List Cursor → List Part → Prop
  | code {start : Nat} {follows : Bool} {text : Text}
      (hslice : source.slice start stop = .ok text) :
      Stretch source unwrap unwraps stop start follows []
        (codeParts (unwrap follows unwraps text))
  | tree {start : Nat} {follows : Bool} {cursor found : Cursor} {cursors : List Cursor}
      {text : Text} {tree : Tree} {others : List Part}
      (hslice : source.slice start cursor.node.start = .ok text)
      (hfound : cursor.element? = some found) (htree : source.readElement found = .ok tree)
      (h : Stretch source unwrap unwraps stop cursor.node.stop true cursors others) :
      Stretch source unwrap unwraps stop start follows (cursor :: cursors)
        (codeParts (unwrap follows cursor.mayUnwrap text) ++ .tree tree :: others)

theorem stretch_of_readParts {source : Source} {stop start : Nat} {follows : Bool}
    {trees : List Cursor} {parts : List Part}
    (h : source.readParts stop start follows trees = .ok parts) :
    Stretch source unwrapGap false stop start follows trees parts := by
  induction trees generalizing start follows parts with
  | nil =>
      obtain ⟨text, hslice, rfl⟩ := readParts_nil h
      exact .code hslice
  | cons cursor cursors ih =>
      obtain ⟨text, found, tree, others, hslice, hfound, htree, hothers, rfl⟩ := readParts_cons h
      exact .tree hslice hfound htree (ih hothers)

theorem stretch_of_readExpression {source : Source} {cursor : Cursor} {expression : Expression}
    (h : source.readExpression cursor = .ok expression) :
    Stretch source unwrapGap false cursor.node.stop cursor.node.start false cursor.trees
      expression.parts := by
  rw [readExpression] at h
  obtain ⟨parts, hparts, h⟩ := exists_of_bind_eq_ok h
  cases h
  exact stretch_of_readParts hparts

section Stretch

variable {source : Source} {unwrap : Bool → Bool → Text → Text} {unwraps follows : Bool}
  {stop start : Nat} {parts : List Part}

/-- At a tree, a stretch is the stretch up to the tree, the tree, and the stretch after it. -/
theorem Stretch.split {earlier later : List Cursor} {cursor : Cursor}
    (h : Stretch source unwrap unwraps stop start follows (earlier ++ cursor :: later) parts) :
    ∃ front found tree rest,
      Stretch source unwrap cursor.mayUnwrap cursor.node.start start follows earlier front ∧
      cursor.element? = some found ∧ source.readElement found = .ok tree ∧
      Stretch source unwrap unwraps stop cursor.node.stop true later rest ∧
      parts = front ++ .tree tree :: rest := by
  induction earlier generalizing start follows parts with
  | nil =>
      cases h with
      | tree hslice hfound htree h => exact ⟨_, _, _, _, .code hslice, hfound, htree, h, rfl⟩
  | cons first earlier ih =>
      cases h with
      | tree hslice hfound htree h =>
          obtain ⟨front, found, tree, rest, hfront, hcursor, hread, hrest, rfl⟩ := ih h
          refine ⟨_, found, tree, rest, .tree hslice hfound htree hfront, hcursor, hread,
            hrest, ?_⟩
          simp

theorem codeParts_append_tree {text : Text} {tree inner : Tree} {others before after : List Part}
    (h : codeParts text ++ .tree tree :: others = before ++ .tree inner :: after) :
    (before = codeParts text ∧ tree = inner ∧ others = after) ∨
      ∃ rest, before = codeParts text ++ .tree tree :: rest ∧
        others = rest ++ .tree inner :: after := by
  rcases List.append_eq_append_iff.mp h with ⟨rest, rfl, hrest⟩ | ⟨rest, htext, hrest⟩
  · cases rest with
    | nil =>
        simp only [List.nil_append, List.cons.injEq, Part.tree.injEq] at hrest
        exact .inl ⟨by simp, hrest.1, hrest.2⟩
    | cons part rest =>
        simp only [List.cons_append, List.cons.injEq] at hrest
        exact .inr ⟨rest, by rw [hrest.1], hrest.2⟩
  · cases rest with
    | nil =>
        simp only [List.nil_append, List.cons.injEq, Part.tree.injEq] at hrest
        exact .inl ⟨by simpa using htext.symm, hrest.1.symm, hrest.2.symm⟩
    | cons part rest =>
        -- a tree would stand among the parts of a code
        simp only [List.cons_append, List.cons.injEq] at hrest
        rw [← hrest.1] at htext
        have hmem : Part.tree inner ∈ codeParts text := by simp [htext]
        unfold codeParts at hmem
        split at hmem <;> simp at hmem

/-- Every tree among the parts is that of a cursor at the same place. -/
theorem Stretch.cursor_of_tree {trees : List Cursor} {before after : List Part} {tree : Tree}
    (h : Stretch source unwrap unwraps stop start follows trees parts)
    (hparts : parts = before ++ .tree tree :: after) :
    ∃ earlier cursor later found, trees = earlier ++ cursor :: later ∧
      Stretch source unwrap cursor.mayUnwrap cursor.node.start start follows earlier before ∧
      cursor.element? = some found ∧ source.readElement found = .ok tree := by
  induction h generalizing before with
  | code hslice =>
      have hmem : Part.tree tree ∈ before ++ .tree tree :: after := by simp
      rw [← hparts] at hmem
      unfold codeParts at hmem
      split at hmem <;> simp at hmem
  | tree hslice hfound htree h ih =>
      rcases codeParts_append_tree hparts with ⟨rfl, rfl, rfl⟩ | ⟨rest, rfl, hrest⟩
      · exact ⟨[], _, _, _, rfl, .code hslice, hfound, htree⟩
      · obtain ⟨earlier, cursor, later, found, rfl, hbefore, hcursor, hread⟩ := ih hrest
        exact ⟨_ :: earlier, cursor, later, found, rfl, .tree hslice hfound htree hbefore,
          hcursor, hread⟩

end Stretch

end Source

/-! ## Nodes of small programs -/

def tokenNode (text : String) (start stop : Nat) : Node :=
  { kind := .other text, start, stop, named := false }

def nameNode (start stop : Nat) : Node :=
  { kind := .other "identifier", start, stop }

def statementNode (start stop : Nat) (children : List Node) : Node :=
  { kind := .other "expression_statement", start, stop, children }

def returnNode (start stop : Nat) (value : Node) : Node where
  kind := .other "return_statement"
  start := start
  stop := stop
  children := [{ kind := .returnWord, start := start, stop := start + 6, named := false }, value]

/-- An assignment to a name of one letter. -/
def assignmentNode (start : Nat) (value : Node) : Node where
  kind := .other "assignment_expression"
  start := start
  stop := value.stop
  children := [
    { nameNode start (start + 1) with field := some (.other "left") },
    tokenNode "=" (start + 1) (start + 2),
    { value with field := some (.other "right") }]

def parenthesizedNode (start stop : Nat) (inner : Node) : Node where
  kind := .parenthesized
  start := start
  stop := stop
  children := [tokenNode "(" start (start + 1), inner, tokenNode ")" (stop - 1) stop]

def blockNode (start stop : Nat) (statements : List Node) : Node where
  kind := .other "statement_block"
  start := start
  stop := stop
  children := tokenNode "\x7b" start (start + 1) ::
    (statements ++ [tokenNode "\x7d" (stop - 1) stop])

/-- A function without parameters. -/
def arrowNode (start : Nat) (body : Node) : Node where
  kind := .other "arrow_function"
  start := start
  stop := body.stop
  children := [
    { kind := .other "formal_parameters", start := start, stop := start + 2, children := [
      tokenNode "(" start (start + 1), tokenNode ")" (start + 1) (start + 2)] },
    tokenNode "=>" (start + 3) (start + 5),
    body]

def bracesNode (start stop : Nat) (inner : Node) : Node where
  kind := .container
  start := start
  stop := stop
  children := [tokenNode "\x7b" start (start + 1), inner, tokenNode "\x7d" (stop - 1) stop]

/-- An element with a name of one letter and one child. -/
def elementNode (start stop : Nat) (child : Node) : Node where
  kind := .element
  start := start
  stop := stop
  children := [
    { kind := .opening, start := start, stop := start + 3, field := some .openTag, children := [
      tokenNode "<" start (start + 1),
      { kind := .other "identifier", start := start + 1, stop := start + 2, field := some .name },
      tokenNode ">" (start + 2) (start + 3)] },
    child,
    { kind := .closing, start := stop - 4, stop := stop, field := some .closeTag, children := [
      tokenNode "</" (stop - 4) (stop - 2), nameNode (stop - 2) (stop - 1),
      tokenNode ">" (stop - 1) stop] }]

end TaggedMarkup
