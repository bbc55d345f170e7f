import TaggedMarkup.Proofs.Element.Places
import TaggedMarkup.Proofs.Source.Partition

/-!
# What stops reading

Reading a node may stop at a construct that no template can represent, at bytes
that are no text, and at a node without a part that its kind always has.  The
functions that read a tree are followed once, for any property of failures that
these three ways of stopping have.
-/

namespace TaggedMarkup

/-! ## Elements that are found -/

mutual

theorem Node.isElement_of_element? {found : Cursor} (before : Option Kind) : ∀ node : Node,
    node.element? before = some found → found.node.kind.isElement = true
  | ⟨kind, start, stop, named, field, missing, children⟩, h => by
    unfold Node.element? at h
    split at h
    case isTrue hkind =>
      cases h
      exact hkind
    case isFalse =>
      split at h
      case isFalse => cases h
      case isTrue =>
        split at h
        · rename_i single hcontent
          subst h
          exact isElement_of_mem_contentElements before children (by simp [hcontent])
        · cases h

theorem isElement_of_mem_contentElements {found : Cursor} (before : Option Kind) :
    ∀ nodes : List Node, some found ∈ contentElements before nodes →
      found.node.kind.isElement = true
  | [], h => by simp [contentElements] at h
  | node :: nodes, h => by
    unfold contentElements at h
    split at h
    · rcases List.mem_cons.mp h with hhead | htail
      · exact Node.isElement_of_element? before node hhead.symm
      · exact isElement_of_mem_contentElements (some node.kind) nodes htail
    · exact isElement_of_mem_contentElements (some node.kind) nodes h

end

theorem Cursor.isSome_element?_of_mem_trees {cursor tree : Cursor} (h : tree ∈ cursor.trees) :
    tree.element?.isSome = true := by
  obtain ⟨addresses, hfound, houtermost⟩ := Node.trees_outermost cursor.before cursor.node
  have hmem : some tree ∈ (cursor.node.trees cursor.before).map some := List.mem_map_of_mem h
  rw [← hfound] at hmem
  obtain ⟨address, haddress, htree⟩ := List.mem_map.mp hmem
  obtain ⟨accepted, haccepted, hsome⟩ := houtermost.accepted address haddress
  rw [htree] at haccepted
  cases haccepted
  exact hsome

/-! ## Parts of nodes -/

namespace Node

/-- The named nodes of a node, comments left out. -/
def content (node : Node) : List Node :=
  node.children.filter isContent

/-- The node has the parts that its kind always has: an element has children, an attribute a name
and quotes around a string, and a spread that is first between braces spreads something. -/
structure Complete (node : Node) : Prop where
  children_ne_nil : node.kind = .element → node.children ≠ []
  content_ne_nil : node.kind = .attr → node.content ≠ []
  quoted : node.kind = .attr → ∀ value ∈ node.content[1]?, value.kind = .string →
    value.start + 2 ≤ value.stop
  operand : node.kind = .container → ∀ inner ∈ node.content.head?, inner.kind = .spread →
    inner.content ≠ []

theorem complete_iff {node : Node} : node.Complete ↔
    (node.kind = .element → node.children.isEmpty = false) ∧
    (node.kind = .attr → node.content.isEmpty = false) ∧
    (node.kind = .attr → ∀ value ∈ node.content[1]?, value.kind = .string →
      value.start + 2 ≤ value.stop) ∧
    (node.kind = .container → ∀ inner ∈ node.content.head?, inner.kind = .spread →
      inner.content.isEmpty = false) := by
  simp only [List.isEmpty_eq_false_iff]
  exact ⟨fun h => ⟨h.children_ne_nil, h.content_ne_nil, h.quoted, h.operand⟩,
    fun ⟨hchildren, hcontent, hquoted, hoperand⟩ => ⟨hchildren, hcontent, hquoted, hoperand⟩⟩

instance : DecidablePred Complete := fun _ =>
  decidable_of_iff _ complete_iff.symm

/-- A node inside begins or ends at the offset. -/
def Edge (top : Node) (offset : Nat) : Prop :=
  ∃ node : Node, node.Inside top ∧ (offset = node.start ∨ offset = node.stop)

theorem Inside.edge_start {node top : Node} (h : node.Inside top) : top.Edge node.start :=
  ⟨node, h, .inl rfl⟩

theorem Inside.edge_stop {node top : Node} (h : node.Inside top) : top.Edge node.stop :=
  ⟨node, h, .inr rfl⟩

end Node

namespace Cursor

theorem map_node_content (cursor : Cursor) :
    cursor.content.map Cursor.node = cursor.node.content := by
  rw [content, Node.content, ← map_node_children, List.filter_map]
  rfl

theorem exists_tags {cursor : Cursor} (h : cursor.node.children ≠ []) :
    ∃ opening closing, cursor.openTag? = some opening ∧ cursor.closeTag? = some closing := by
  rw [← map_node_children, Ne, List.map_eq_nil_iff] at h
  obtain ⟨opening, hopening⟩ : ∃ opening, cursor.openTag? = some opening := by
    rw [← Option.isSome_iff_exists, openTag?, Option.isSome_or, List.isSome_head?.mpr h,
      Bool.or_true]
  obtain ⟨closing, hclosing⟩ : ∃ closing, cursor.closeTag? = some closing := by
    rw [← Option.isSome_iff_exists, closeTag?, Option.isSome_or, List.getLast?_isSome.mpr h,
      Bool.or_true]
  exact ⟨opening, closing, hopening, hclosing⟩

/-- The node is inside another and has fewer nodes than the bound. -/
structure Below (top : Node) (bound : Nat) (cursor : Cursor) : Prop where
  size_lt : cursor.size < bound
  inside : cursor.node.Inside top

theorem Below.of_mem_children {top : Node} {bound : Nat} {cursor child : Cursor}
    (h : cursor.Below top (bound + 1)) (hmem : child ∈ cursor.children) :
    child.Below top bound where
  size_lt := Nat.lt_of_lt_of_le (size_lt_of_mem_children hmem) (Nat.le_of_lt_succ h.size_lt)
  inside := (inside_of_mem_children hmem).trans h.inside

theorem Below.succ {top : Node} {bound : Nat} {cursor : Cursor} (h : cursor.Below top bound) :
    cursor.Below top (bound + 1) :=
  ⟨Nat.lt_succ_of_lt h.size_lt, h.inside⟩

theorem Below.of_mem_content {top : Node} {bound : Nat} {cursor inner : Cursor}
    (h : cursor.Below top bound) (hmem : inner ∈ cursor.content) : inner.Below top bound :=
  h.succ.of_mem_children (List.mem_filter.mp hmem).1

theorem Below.head {top : Node} {bound : Nat} {cursor inner : Cursor} {rest : List Cursor}
    (h : cursor.Below top bound) (hcontent : cursor.content = inner :: rest) :
    inner.Below top bound :=
  h.of_mem_content (by rw [hcontent]; exact List.mem_cons_self)

/-- The node stands in the tag of an element, where its attributes are. -/
def InTag (cursor : Cursor) : Prop :=
  ∃ element : Cursor, element.node.kind.isElement = true ∧ cursor ∈ element.tagNodes

end Cursor

/-! ## Constructs that are refused -/

namespace Source

/-- The node is the value of an attribute with this name. -/
def Assigns (source : Source) (name : Text) (value : Cursor) : Prop :=
  ∃ (item label : Cursor) (rest : List Cursor), item.InTag ∧ item.node.kind = .attr ∧
    item.content = label :: value :: rest ∧ source.textOf label.node = .ok name

/-- The node is a construct that no template can represent, with this problem. -/
inductive Refuses (source : Source) : Problem → Cursor → Prop
  | unnamed {tag : Cursor} (hkind : tag.node.kind = .selfClosing) (h : tag.child? .name = none) :
      Refuses source .unnamedElement tag
  | namespaced {tag name : Cursor} {text : Text} (hname : tag.child? .name = some name)
      (htext : source.textOf name.node = .ok text) (h : ':' ∈ text) :
      Refuses source (.namespacedTag text) name
  | spreadValue {name : Text} {value inner : Cursor} (hvalue : source.Assigns name value)
      (hkind : value.node.kind = .container) (hinner : inner ∈ value.content.head?)
      (h : inner.node.kind = .spread) : Refuses source (.spreadValue name) value
  | attributeValue {name : Text} {value : Cursor} (hvalue : source.Assigns name value)
      (hstring : value.node.kind ≠ .string) (hbraces : value.node.kind ≠ .container)
      (h : value.node.kind.isElement = false) :
      Refuses source (.attributeValue name value.node.kind.name) value
  | expectedSpread {item : Cursor} (hitem : item.InTag) (hkind : item.node.kind = .container)
      (h : ∀ inner ∈ item.content.head?, inner.node.kind ≠ .spread) :
      Refuses source .expectedSpread item

theorem Refuses.category_eq {source : Source} {problem : Problem} {cursor : Cursor}
    (h : source.Refuses problem cursor) : problem.category = .unsupported := by
  cases h <;> rfl

/-- Failures of these kinds are all that may stop the reading of nodes inside a node. -/
structure StopsIn (source : Source) (top : Node) (stops : Failure → Prop) : Prop where
  report {problem : Problem} {cursor : Cursor} (hrefuses : source.Refuses problem cursor)
    (hinside : cursor.node.Inside top) : stops (source.report problem cursor.node.start)
  slice {start stop : Nat} (hstart : top.Edge start) (hstop : top.Edge stop) :
    Settles stops (fun _ => True) (source.slice start stop)
  incomplete {node : Node} (hinside : node.Inside top) (hparts : ¬ node.Complete) :
    stops .missingPart
  empty {node : Node} (hinside : node.Inside top) (hrange : node.start < node.stop)
    (htext : source.textOf node = .ok []) : stops .missingPart

/-! ## Reading -/

/-- The position is the start of a node inside another. -/
def PlaceIn (source : Source) (top : Node) (position : Position) : Prop :=
  ∃ node : Node, node.Inside top ∧ position = source.position node.start

section Reading

variable {source : Source} {top : Node} {stops : Failure → Prop} {bound : Nat} {cursor : Cursor}

theorem StopsIn.textOf_settles (h : source.StopsIn top stops) {node : Node}
    (hnode : node.Inside top) :
    Settles stops (fun text => source.textOf node = .ok text) (source.textOf node) :=
  (h.slice hnode.edge_start hnode.edge_stop).eq_ok

theorem StopsIn.readName_settles (h : source.StopsIn top stops) (hcursor : cursor.node.Inside top)
    (hunnamed : cursor.child? .name = none → cursor.node.kind = .selfClosing) :
    Settles stops (TagName.Placed (source.PlaceIn top)) (source.readName cursor) := by
  unfold Source.readName
  split
  · rename_i hname
    exact h.report (.unnamed (hunnamed hname) hname) hcursor
  · rename_i name hname
    have hinside := (Cursor.inside_of_mem_children (List.mem_of_find?_eq_some hname)).trans hcursor
    refine (h.textOf_settles hinside).bind fun text htext => ?_
    unfold TagName.classify
    by_cases hcolon : ':' ∈ text
    · rw [if_pos (List.contains_iff_mem.mpr hcolon)]
      exact h.report (.namespaced hname htext hcolon) hinside
    · rw [if_neg (mt List.contains_iff_mem.mp hcolon)]
      by_cases hstatic : TagName.isStatic text = true
      · rw [if_pos hstatic]
        exact trivial
      · rw [if_neg hstatic]
        exact ⟨trivial, trivial⟩

theorem StopsIn.readGap_settles (h : source.StopsIn top stops) {start stop : Nat}
    (hstart : top.Edge start) (hstop : top.Edge stop) :
    Settles stops (ChildrenPlaced (source.PlaceIn top)) (source.readGap start stop) := by
  unfold Source.readGap
  split
  · exact (h.slice hstart hstop).bind fun raw _ => ⟨trivial, trivial⟩
  · exact trivial

theorem codeParts_placed {place : Position → Prop} (text : Text) {parts : List Part}
    (h : PartsPlaced place parts) : PartsPlaced place (codeParts text ++ parts) := by
  unfold codeParts
  split
  · exact h
  · exact ⟨trivial, h⟩

theorem childrenPlaced_append {place : Position → Prop} {first second : List Child}
    (hfirst : ChildrenPlaced place first) (hsecond : ChildrenPlaced place second) :
    ChildrenPlaced place (first ++ second) := by
  induction first with
  | nil => exact hsecond
  | cons child first ih =>
      rw [ChildrenPlaced] at hfirst
      exact ⟨hfirst.1, ih hfirst.2⟩

/-- Failures of these kinds are all that may stop the reading of elements inside a node that have
fewer nodes than the bound; if it is not stopped, the trees are placed. -/
structure ReadsBelow (source : Source) (top : Node) (stops : Failure → Prop) (bound : Nat) : Prop
    extends source.StopsIn top stops where
  element {cursor : Cursor} (hcursor : cursor.Below top bound)
    (hkind : cursor.node.kind.isElement = true) :
    Settles stops (Tree.Placed (source.PlaceIn top)) (source.readElement cursor)

namespace ReadsBelow

variable (h : source.ReadsBelow top stops bound)

include h

theorem readParts_settles {start stop : Nat} {follows : Bool} {trees : List Cursor}
    (hstart : top.Edge start) (hstop : top.Edge stop)
    (htrees : ∀ tree ∈ trees, tree.Below top bound ∧ tree.element?.isSome = true) :
    Settles stops (PartsPlaced (source.PlaceIn top))
      (source.readParts stop start follows trees) := by
  induction trees generalizing start follows with
  | nil =>
      rw [Source.readParts]
      refine (h.slice hstart hstop).bind fun text _ => ?_
      have hcode : PartsPlaced (source.PlaceIn top)
          (codeParts (if follows then unwrapAfter text else text) ++ []) :=
        codeParts_placed _ trivial
      rwa [List.append_nil] at hcode
  | cons tree trees ih =>
      obtain ⟨⟨hbelow, hsome⟩, hothers⟩ := List.forall_mem_cons.mp htrees
      obtain ⟨found, hfound⟩ := Option.isSome_iff_exists.mp hsome
      have hinside := Node.inside_of_element? tree.before tree.node hfound
      have hsize := Nat.lt_of_le_of_lt (Cursor.size_le_of_element? hfound) hbelow.size_lt
      have hkind := Node.isElement_of_element? tree.before tree.node hfound
      rw [readParts_cons_eq, hfound]
      refine (h.slice hstart hbelow.inside.edge_start).bind fun text _ => ?_
      refine (h.element ⟨hsize, hinside.trans hbelow.inside⟩ hkind).bind fun read hread => ?_
      refine (ih hbelow.inside.edge_stop hothers).bind fun others hplaced => ?_
      exact codeParts_placed _ ⟨hread, hplaced⟩

theorem readExpression_settles (hcursor : cursor.Below top bound) :
    Settles stops
      (fun expression => expression.Placed (source.PlaceIn top) ∧
        source.PlaceIn top expression.position)
      (source.readExpression cursor) := by
  rw [Source.readExpression]
  refine (h.readParts_settles hcursor.inside.edge_start hcursor.inside.edge_stop ?_).bind
    fun parts hparts => ⟨hparts, cursor.node, hcursor.inside, rfl⟩
  intro tree hmem
  have hsize : tree.size ≤ cursor.size :=
    Nat.le_trans (Cursor.size_le_total hmem) cursor.total_trees_le
  have hinside := Node.inside_of_mem_trees cursor.before cursor.node hmem
  exact ⟨⟨Nat.lt_of_le_of_lt hsize hcursor.size_lt, hinside.trans hcursor.inside⟩,
    Cursor.isSome_element?_of_mem_trees hmem⟩

theorem readOperand_settles {inner : Cursor} {rest : List Cursor} (hcursor : cursor.Below top bound)
    (hkind : cursor.node.kind = .container) (hcontent : cursor.content = inner :: rest)
    (hspread : inner.node.kind = .spread) :
    Settles stops
      (fun expression => expression.Placed (source.PlaceIn top) ∧
        source.PlaceIn top expression.position)
      (source.readOperand inner) := by
  unfold Source.readOperand
  split
  · rename_i hempty
    refine h.incomplete hcursor.inside fun hcomplete => ?_
    refine hcomplete.operand hkind inner.node ?_ hspread ?_
    · rw [← Cursor.map_node_content, hcontent]
      rfl
    · rw [← Cursor.map_node_content, hempty, List.map_nil]
  · rename_i value others hvalue
    exact h.readExpression_settles ((hcursor.head hcontent).head hvalue)

theorem readValue_settles {name : Text} (hcursor : cursor.Below top bound)
    (hvalue : source.Assigns name cursor)
    (hquoted : cursor.node.kind = .string → cursor.node.start + 2 ≤ cursor.node.stop ∨
      stops .missingPart) :
    Settles stops (Attribute.Placed (source.PlaceIn top)) (source.readValue cursor name) := by
  unfold Source.readValue
  split
  · rename_i hstring
    refine (h.textOf_settles hcursor.inside).bind fun text htext => ?_
    cases text with
    | nil =>
        rcases hquoted hstring with hrange | hstops
        · exact h.empty hcursor.inside (by omega) htext
        · exact hstops
    | cons quote raw => exact trivial
  · rename_i hstring
    split
    · rename_i hbraces
      split
      · exact ⟨cursor.node, hcursor.inside, rfl⟩
      · rename_i inner rest hcontent
        split
        · rename_i hspread
          exact h.report (.spreadValue hvalue hbraces (by rw [hcontent]; rfl) hspread)
            hcursor.inside
        · exact (h.readExpression_settles (hcursor.head hcontent)).bind
            fun expression hread => hread.1
    · rename_i hbraces
      split
      · rename_i helement
        exact (h.element hcursor helement).bind fun tree htree => ⟨htree, trivial⟩
      · rename_i helement
        exact h.report (.attributeValue hvalue hstring hbraces (Bool.not_eq_true _ ▸ helement))
          hcursor.inside

theorem readAttribute_settles (hcursor : cursor.Below top bound) (hitem : cursor.InTag)
    (hkind : cursor.node.kind = .attr) :
    Settles stops (Attribute.Placed (source.PlaceIn top)) (source.readAttribute cursor) := by
  have hnodes := cursor.map_node_content
  rw [readAttribute_eq]
  split
  · rename_i hempty
    rw [hempty] at hnodes
    exact h.incomplete hcursor.inside fun hcomplete => hcomplete.content_ne_nil hkind hnodes.symm
  · rename_i label hcontent
    exact (h.textOf_settles (hcursor.head hcontent).inside).bind fun name _ => trivial
  · rename_i label value rest hcontent
    rw [hcontent] at hnodes
    refine (h.textOf_settles (hcursor.head hcontent).inside).bind fun name hname => ?_
    refine h.readValue_settles (hcursor.of_mem_content (by rw [hcontent]; simp))
      ⟨cursor, label, rest, hitem, hkind, hcontent, hname⟩ fun hstring => ?_
    by_cases hcomplete : cursor.node.Complete
    · exact .inl (hcomplete.quoted hkind value.node (by rw [← hnodes]; rfl) hstring)
    · exact .inr (h.incomplete hcursor.inside hcomplete)

theorem readSpread_settles (hcursor : cursor.Below top bound) (hitem : cursor.InTag)
    (hkind : cursor.node.kind = .container) :
    Settles stops (Attribute.Placed (source.PlaceIn top)) (source.readSpread cursor) := by
  rw [readSpread_eq]
  split
  · rename_i hempty
    exact h.report (.expectedSpread hitem hkind (by simp [hempty])) hcursor.inside
  · rename_i inner rest hcontent
    split
    · rename_i hspread
      exact (h.readOperand_settles hcursor hkind hcontent hspread).bind
        fun expression hread => hread.1
    · rename_i hspread
      refine h.report (.expectedSpread hitem hkind ?_) hcursor.inside
      simpa [hcontent] using hspread

theorem readAttributes_settles {cursors : List Cursor}
    (hcursors : ∀ cursor ∈ cursors, cursor.Below top bound ∧ cursor.InTag) :
    Settles stops (AttributesPlaced (source.PlaceIn top)) (source.readAttributes cursors) := by
  induction cursors with
  | nil =>
      rw [Source.readAttributes]
      exact trivial
  | cons cursor cursors ih =>
      obtain ⟨⟨hbelow, hitem⟩, hothers⟩ := List.forall_mem_cons.mp hcursors
      have hrest := ih hothers
      rw [Source.readAttributes]
      split
      · exact hrest
      · split
        · rename_i hkind
          refine (h.readAttribute_settles hbelow hitem hkind).bind fun first hfirst => ?_
          exact hrest.bind fun others hplaced => ⟨hfirst, hplaced⟩
        · split
          · rename_i hkind
            refine (h.readSpread_settles hbelow hitem hkind).bind fun first hfirst => ?_
            exact hrest.bind fun others hplaced => ⟨hfirst, hplaced⟩
          · exact hrest

theorem readChild_settles (hcursor : cursor.Below top bound)
    (hkind : cursor.node.kind.isElement = true ∨ cursor.node.kind = .container) :
    Settles stops (ChildrenPlaced (source.PlaceIn top)) (source.readChild cursor) := by
  rw [readChild_eq]
  split
  · rename_i hbraces
    split
    · exact ⟨trivial, trivial⟩
    · rename_i inner rest hcontent
      split
      · rename_i hspread
        -- what is reported of a spread is the place of what it spreads
        exact (h.readOperand_settles hcursor hbraces hcontent hspread).bind fun expression hread =>
          ⟨hread.2, trivial⟩
      · exact (h.readExpression_settles (hcursor.head hcontent)).bind fun expression hread =>
          ⟨hread.1, trivial⟩
  · rename_i hbraces
    refine (h.element hcursor (hkind.resolve_right hbraces)).bind fun tree htree => ?_
    cases tree with
    | fragment children position => exact htree
    | element element => exact ⟨htree, trivial⟩
    | blank => exact ⟨trivial, trivial⟩

theorem readChildren_settles {low high start : Nat} {cursors : List Cursor}
    (hstart : top.Edge start) (hhigh : top.Edge high)
    (hcursors : ∀ cursor ∈ cursors, cursor.Below top bound) :
    Settles stops (ChildrenPlaced (source.PlaceIn top))
      (source.readChildren low high start cursors) := by
  induction cursors generalizing start with
  | nil =>
      rw [Source.readChildren]
      exact h.readGap_settles hstart hhigh
  | cons cursor cursors ih =>
      obtain ⟨hbelow, hothers⟩ := List.forall_mem_cons.mp hcursors
      rw [Source.readChildren]
      split
      · rename_i hbetween
        have hkind := (Cursor.isChildBetween_iff.mp hbetween).1
        refine (h.readGap_settles hstart hbelow.inside.edge_start).bind fun gap hgap => ?_
        refine (h.readChild_settles hbelow hkind).bind fun here hhere => ?_
        refine (ih hbelow.inside.edge_stop hothers).bind fun others hplaced => ?_
        exact childrenPlaced_append (childrenPlaced_append hgap hhere) hplaced
      · exact ih hstart hothers

theorem readElement_settles (hcursor : cursor.Below top (bound + 1))
    (hkind : cursor.node.kind.isElement = true) :
    Settles stops (Tree.Placed (source.PlaceIn top)) (source.readElement cursor) := by
  have hchildren : ∀ child ∈ cursor.children, child.Below top bound := fun child hmem =>
    hcursor.of_mem_children hmem
  rw [readElement_eq]
  split
  · rename_i hclosed
    have hitems : ∀ child ∈ cursor.children, child.Below top bound ∧ child.InTag := by
      intro child hmem
      exact ⟨hchildren child hmem, cursor, hkind, by rwa [Cursor.tagNodes, if_pos hclosed]⟩
    refine (h.readName_settles hcursor.inside fun _ => hclosed).bind fun name hname => ?_
    refine (h.readAttributes_settles hitems).bind fun attributes hattributes => ?_
    exact ⟨hname, hattributes, trivial⟩
  · rename_i hopen
    split
    · rename_i opening closing hopening hclosing
      have htag := hchildren opening (Cursor.mem_children_of_openTag? hopening)
      have hend := hchildren closing (Cursor.mem_children_of_closeTag? hclosing)
      refine (h.readChildren_settles htag.inside.edge_stop hend.inside.edge_start hchildren).bind
        fun children hplaced => ?_
      split
      · exact hplaced
      · rename_i hnamed
        have hitems : ∀ child ∈ opening.children, child.Below top bound ∧ child.InTag := by
          intro child hmem
          refine ⟨htag.succ.of_mem_children hmem, cursor, hkind, ?_⟩
          simpa only [Cursor.tagNodes, if_neg hopen, hopening, if_neg hnamed] using hmem
        refine (h.readName_settles htag.inside fun hnone => absurd (by simp [hnone]) hnamed).bind
          fun name hname => ?_
        refine (h.readAttributes_settles hitems).bind fun attributes hattributes => ?_
        exact ⟨hname, hattributes, hplaced⟩
    · rename_i hmissing
      refine h.incomplete hcursor.inside fun hcomplete => ?_
      have helement := (Kind.isElement_iff.mp hkind).resolve_right hopen
      obtain ⟨opening, closing, hopening, hclosing⟩ :=
        Cursor.exists_tags (hcomplete.children_ne_nil helement)
      exact hmissing opening closing hopening hclosing

end ReadsBelow

theorem StopsIn.readsBelow (h : source.StopsIn top stops) (bound : Nat) :
    source.ReadsBelow top stops bound := by
  induction bound with
  | zero => exact ⟨h, fun hcursor _ => absurd hcursor.size_lt (Nat.not_lt_zero _)⟩
  | succ bound ih => exact ⟨h, fun hcursor hkind => ih.readElement_settles hcursor hkind⟩

end Reading

end Source

/-- A root is read as a placed tree, unless one of these failures stops it. -/
theorem Document.read_settles {document : Document} {root : Cursor} {stops : Failure → Prop}
    (h : document.source.StopsIn root.node stops)
    (hnone : root.element? = none → stops (.notTree root.node.kind.name)) :
    Settles stops (Tree.Placed (document.source.PlaceIn root.node)) (document.read root) := by
  unfold Document.read
  split
  · rename_i element helement
    have hinside := Node.inside_of_element? root.before root.node helement
    exact (h.readsBelow (element.size + 1)).element ⟨Nat.lt_succ_self _, hinside⟩
      (Node.isElement_of_element? root.before root.node helement)
  · rename_i hroot
    exact hnone hroot

end TaggedMarkup
