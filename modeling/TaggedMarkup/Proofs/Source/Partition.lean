import Mathlib.Data.List.Chain
import TaggedMarkup.Proofs.Source.Embedded
import TaggedMarkup.Proofs.Source.Steps

/-!
# Between two tags

The children of an element are read off the program between its tags.  The
braces and elements that stand there are one child each, and everything between
them is text, whatever nodes the parser made of it, so that text and nodes tile
the program from the end of the opening tag to the start of the closing one.  A
fragment among them has no child of its own: what is between its tags takes its
place, laid out in the same way.
-/

namespace TaggedMarkup

/-! ## Contents -/

/-- Something between two tags: text, a node that is one child, or a fragment with what is between
its own tags. -/
inductive Content where
  | text (start stop : Nat) (raw : Text)
  | single (item : Cursor) (child : Child)
  | fragment (item : Cursor) (inner : List Content)

mutual

def Content.children : Content → List Child
  | .text _ _ raw => [.text raw]
  | .single _ child => [child]
  | .fragment _ inner => childrenOf inner

/-- The children that some contents come to, with the fragments opened. -/
def childrenOf : List Content → List Child
  | [] => []
  | content :: contents => content.children ++ childrenOf contents

end

def Tree.children : Tree → List Child
  | .element root => root.children
  | .fragment children _ => children
  | .blank => []

def Source.range (source : Source) (start stop : Nat) : List UInt8 :=
  (source.bytes.take stop).drop start

namespace Content

def item? : Content → Option Cursor
  | .text _ _ _ => none
  | .single item _ => some item
  | .fragment item _ => some item

def start : Content → Nat
  | .text start _ _ => start
  | .single item _ => item.node.start
  | .fragment item _ => item.node.start

def stop : Content → Nat
  | .text _ stop _ => stop
  | .single item _ => item.node.stop
  | .fragment item _ => item.node.stop

def bytes (source : Source) : Content → List UInt8
  | .text _ _ raw => Utf8.encode raw
  | .single item _ => source.range item.node.start item.node.stop
  | .fragment item _ => source.range item.node.start item.node.stop

theorem range_of_item? (content : Content) {item : Cursor} (h : content.item? = some item) :
    content.start = item.node.start ∧ content.stop = item.node.stop := by
  cases content with
  | text start stop raw => cases h
  | single item child =>
      cases h
      exact ⟨rfl, rfl⟩
  | fragment item inner =>
      cases h
      exact ⟨rfl, rfl⟩

end Content

/-- The contents stand one after the other, without gap or overlap, from one offset to another. -/
def Tiles (start stop : Nat) : List Content → Prop
  | [] => start = stop
  | content :: contents =>
    content.start = start ∧ start ≤ content.stop ∧ Tiles content.stop stop contents

theorem Tiles.le {start stop : Nat} {contents : List Content} (h : Tiles start stop contents) :
    start ≤ stop := by
  induction contents generalizing start with
  | nil => exact Nat.le_of_eq h
  | cons content contents ih =>
      obtain ⟨-, hle, hrest⟩ := h
      exact Nat.le_trans hle (ih hrest)

theorem Tiles.bytes_eq {source : Source} {start stop : Nat} {contents : List Content}
    (h : Tiles start stop contents)
    (hbytes : ∀ content ∈ contents,
      content.bytes source = source.range content.start content.stop) :
    source.range start stop = contents.flatMap (Content.bytes source) := by
  induction contents generalizing start with
  | nil =>
      cases h
      simp [Source.range]
  | cons content contents ih =>
      obtain ⟨rfl, hle, hrest⟩ := h
      rw [List.flatMap_cons, hbytes content List.mem_cons_self,
        ← ih hrest fun other hmem => hbytes other (List.mem_cons_of_mem content hmem)]
      exact drop_take_append hle hrest.le

/-! ## Tags -/

theorem Kind.isElement_iff {kind : Kind} :
    kind.isElement = true ↔ kind = .element ∨ kind = .selfClosing := by
  cases kind <;> simp [Kind.isElement]

namespace Node

def openTag? (node : Node) : Option Node :=
  (node.children.find? (·.field == some .openTag)).or node.children.head?

def closeTag? (node : Node) : Option Node :=
  (node.children.find? (·.field == some .closeTag)).or node.children.getLast?

/-- The opening tag of an element ends before or where its closing tag begins. -/
def Tagged (node : Node) : Prop :=
  node.kind = .element →
    ∀ opening ∈ node.openTag?, ∀ closing ∈ node.closeTag?, opening.stop ≤ closing.start

instance : DecidablePred Tagged := fun node =>
  inferInstanceAs (Decidable (node.kind = .element →
    ∀ opening ∈ node.openTag?, ∀ closing ∈ node.closeTag?, opening.stop ≤ closing.start))

end Node

namespace Cursor

theorem map_node_siblings (before : Option Kind) (nodes : List Node) :
    (siblings before nodes).map Cursor.node = nodes := by
  induction nodes generalizing before with
  | nil => rfl
  | cons node nodes ih => rw [siblings, List.map_cons, ih]

theorem map_node_children (cursor : Cursor) :
    cursor.children.map Cursor.node = cursor.node.children :=
  map_node_siblings cursor.before cursor.node.children

theorem children_ordered {cursor : Cursor} (h : cursor.node.WellFormed) :
    Ordered cursor.children := by
  have hapart := (Node.all_iff.mp h).1.apart
  rw [← map_node_children, List.pairwise_map] at hapart
  exact hapart

theorem map_node_openTag? (cursor : Cursor) :
    cursor.openTag?.map Cursor.node = cursor.node.openTag? := by
  rw [openTag?, Option.map_or, child?, Node.openTag?, ← map_node_children, List.find?_map,
    List.head?_map]
  rfl

theorem map_node_closeTag? (cursor : Cursor) :
    cursor.closeTag?.map Cursor.node = cursor.node.closeTag? := by
  rw [closeTag?, Option.map_or, child?, Node.closeTag?, ← map_node_children, List.find?_map,
    List.getLast?_map]
  rfl

theorem tags_apart {cursor opening closing : Cursor} (h : cursor.node.Tagged)
    (hkind : cursor.node.kind = .element) (hopening : cursor.openTag? = some opening)
    (hclosing : cursor.closeTag? = some closing) : opening.node.stop ≤ closing.node.start := by
  apply h hkind opening.node _ closing.node
  · rw [← map_node_closeTag?, hclosing]
    rfl
  · rw [← map_node_openTag?, hopening]
    rfl

theorem mem_children_of_closeTag? {cursor tag : Cursor} (h : cursor.closeTag? = some tag) :
    tag ∈ cursor.children := by
  rw [closeTag?, Option.or_eq_some_iff] at h
  rcases h with h | ⟨-, h⟩
  · exact List.mem_of_find?_eq_some h
  · exact List.mem_of_getLast? h

end Cursor

/-! ## What is between the tags -/

namespace Source

/-- The one child that a node between the tags is read as. -/
inductive Gives (source : Source) (item : Cursor) : Child → Prop
  | empty (hkind : item.node.kind = .container) (hcontent : item.content = []) :
      Gives source item .empty
  | spread {inner : Cursor} {others : List Cursor} {value : Expression}
      (hkind : item.node.kind = .container) (hcontent : item.content = inner :: others)
      (hspread : inner.node.kind = .spread) (hread : source.readOperand inner = .ok value) :
      Gives source item (.spread value)
  | expression {inner : Cursor} {others : List Cursor} {value : Expression}
      (hkind : item.node.kind = .container) (hcontent : item.content = inner :: others)
      (hplain : inner.node.kind ≠ .spread) (hread : source.readExpression inner = .ok value) :
      Gives source item (.expression value)
  | element {value : Element} (hkind : item.node.kind.isElement = true)
      (hread : source.readElement item = .ok (.element value)) :
      Gives source item (.element value)

/-- How contents stand between two offsets, with these nodes among them. -/
structure Lays (start stop : Nat) (items : List Cursor) (contents : List Content) : Prop where
  tiles : Tiles start stop contents
  nodes : contents.filterMap Content.item? = items
  /-- Text is never next to text. -/
  apart : contents.IsChain fun first second => first.item? ≠ none ∨ second.item? ≠ none

mutual

/-- The program has this content, a fragment with its own contents between its own tags. -/
inductive Fits (source : Source) : Content → Prop
  | text {start stop : Nat} {raw : Text} (hraw : raw ≠ [])
      (hslice : source.slice start stop = .ok raw) : Fits source (.text start stop raw)
  | single {item : Cursor} {child : Child} (h : source.Gives item child) :
      Fits source (.single item child)
  | fragment {item : Cursor} {inner : List Content} {position : Position}
      (hread : source.readElement item = .ok (.fragment (childrenOf inner) position))
      (h : Partitions source item inner) : Fits source (.fragment item inner)

/-- The contents of an element, from the end of its opening tag to the start of its closing tag. -/
inductive Partitions (source : Source) : Cursor → List Content → Prop
  | between {cursor opening closing : Cursor} {contents : List Content}
      (hopening : cursor.openTag? = some opening) (hclosing : cursor.closeTag? = some closing)
      (hlays : Lays opening.node.stop closing.node.start
        (cursor.children.filter (·.isChildBetween opening.node.stop closing.node.start)) contents)
      (hbytes : source.range opening.node.stop closing.node.start =
        contents.flatMap (Content.bytes source))
      (hfits : ∀ content ∈ contents, Fits source content) :
      Partitions source cursor contents

end

/-! ## Laying out what is read -/

theorem Lays.nil (start : Nat) : Lays start start [] [] :=
  ⟨rfl, rfl, .nil⟩

theorem Lays.node {start stop : Nat} {item : Cursor} {items : List Cursor} {content : Content}
    {contents : List Content} (hitem : content.item? = some item)
    (hstart : content.start = start) (hsize : start ≤ content.stop)
    (h : Lays content.stop stop items contents) :
    Lays start stop (item :: items) (content :: contents) where
  tiles := ⟨hstart, hsize, h.tiles⟩
  nodes := by rw [List.filterMap_cons, hitem, h.nodes]
  apart := by
    rw [List.isChain_cons]
    exact ⟨fun next _ => .inl (by simp [hitem]), h.apart⟩

theorem Lays.text {start middle stop : Nat} {items : List Cursor} {contents : List Content}
    (raw : Text) (hsize : start ≤ middle)
    (hnext : ∀ next ∈ contents.head?, next.item? ≠ none)
    (h : Lays middle stop items contents) :
    Lays start stop items (.text start middle raw :: contents) where
  tiles := ⟨rfl, hsize, h.tiles⟩
  nodes := by rw [List.filterMap_cons, Content.item?, h.nodes]
  apart := by
    rw [List.isChain_cons]
    exact ⟨fun next hmem => .inr (hnext next hmem), h.apart⟩

theorem Fits.bytes_eq {source : Source} {content : Content} (h : source.Fits content) :
    content.bytes source = source.range content.start content.stop := by
  cases h with
  | text hraw hslice => exact slice_eq_ok hslice
  | single h => rfl
  | fragment hread h => rfl

section Reading

variable {source : Source} {children : List Child}

theorem readElement_eq_ok {cursor : Cursor} {tree : Tree}
    (h : source.readElement cursor = .ok tree) :
    tree ≠ .blank ∧ (cursor.node.kind ≠ .selfClosing →
      ∃ opening closing, cursor.openTag? = some opening ∧ cursor.closeTag? = some closing ∧
        source.readChildren opening.node.stop closing.node.start opening.node.stop
          cursor.children = .ok tree.children) := by
  rw [readElement_eq] at h
  split at h
  case isTrue hkind =>
    obtain ⟨name, -, h⟩ := exists_of_bind_eq_ok h
    obtain ⟨attributes, -, h⟩ := exists_of_bind_eq_ok h
    cases h
    exact ⟨by simp, fun hother => absurd hkind hother⟩
  case isFalse hkind =>
    split at h
    · rename_i opening closing hopening hclosing
      obtain ⟨children, hchildren, h⟩ := exists_of_bind_eq_ok h
      split at h
      case isTrue =>
        cases h
        exact ⟨by simp, fun _ => ⟨opening, closing, hopening, hclosing, hchildren⟩⟩
      case isFalse =>
        obtain ⟨name, -, h⟩ := exists_of_bind_eq_ok h
        obtain ⟨attributes, -, h⟩ := exists_of_bind_eq_ok h
        cases h
        exact ⟨by simp, fun _ => ⟨opening, closing, hopening, hclosing, hchildren⟩⟩
    · cases h

theorem readGap_lays {start middle stop : Nat} {items : List Cursor} {contents : List Content}
    (hsize : start ≤ middle) (hend : middle ≤ source.bytes.length)
    (hnext : ∀ next ∈ contents.head?, next.item? ≠ none)
    (hlays : Lays middle stop items contents)
    (hfits : ∀ content ∈ contents, source.Fits content)
    (h : source.readGap start middle = .ok children) :
    ∃ whole, childrenOf whole = children ++ childrenOf contents ∧
      Lays start stop items whole ∧ ∀ content ∈ whole, source.Fits content := by
  unfold readGap at h
  split at h
  case isTrue hlt =>
    obtain ⟨raw, hslice, h⟩ := exists_of_bind_eq_ok h
    cases h
    -- the gap is inside the program and has a byte, so it has a character
    have hraw : raw ≠ [] := by
      rintro rfl
      have hbytes := congrArg List.length (slice_eq_ok hslice)
      simp only [Utf8.encode_nil, List.length_nil, List.length_drop, List.length_take] at hbytes
      omega
    refine ⟨.text start middle raw :: contents, rfl, hlays.text raw hsize hnext, ?_⟩
    exact List.forall_mem_cons.mpr ⟨.text hraw hslice, hfits⟩
  case isFalse hle =>
    cases h
    obtain rfl : start = middle := by omega
    exact ⟨contents, rfl, hlays, hfits⟩

theorem readChild_cases {item : Cursor}
    (hkind : item.node.kind.isElement = true ∨ item.node.kind = .container)
    (h : source.readChild item = .ok children) :
    (∃ child, children = [child] ∧ source.Gives item child) ∨
      item.node.kind.isElement = true ∧
        ∃ position, source.readElement item = .ok (.fragment children position) := by
  rw [readChild_eq] at h
  split at h
  case isTrue hbraces =>
    split at h
    · rename_i hcontent
      cases h
      exact .inl ⟨_, rfl, .empty hbraces hcontent⟩
    · rename_i inner others hcontent
      split at h
      case isTrue hspread =>
        obtain ⟨value, hread, h⟩ := exists_of_bind_eq_ok h
        cases h
        exact .inl ⟨_, rfl, .spread hbraces hcontent hspread hread⟩
      case isFalse hplain =>
        obtain ⟨value, hread, h⟩ := exists_of_bind_eq_ok h
        cases h
        exact .inl ⟨_, rfl, .expression hbraces hcontent hplain hread⟩
  case isFalse hbraces =>
    have helement := hkind.resolve_right hbraces
    obtain ⟨tree, hread, h⟩ := exists_of_bind_eq_ok h
    cases tree with
    | fragment inner position =>
        cases h
        exact .inr ⟨helement, position, hread⟩
    | element value =>
        cases h
        exact .inl ⟨_, rfl, .element helement hread⟩
    | blank => exact absurd rfl (readElement_eq_ok hread).1

/-- A fragment among some nodes opens to contents of its own. -/
def Opens (source : Source) (item : Cursor) : Prop :=
  ∀ inner position, item.node.kind.isElement = true →
    source.readElement item = .ok (.fragment inner position) →
    ∃ contents, inner = childrenOf contents ∧ source.Partitions item contents

theorem exists_content {item : Cursor}
    (hkind : item.node.kind.isElement = true ∨ item.node.kind = .container)
    (hopens : source.Opens item) (h : source.readChild item = .ok children) :
    ∃ content : Content, content.item? = some item ∧ content.children = children ∧
      source.Fits content := by
  rcases readChild_cases hkind h with ⟨child, rfl, hgives⟩ | ⟨helement, position, hread⟩
  · exact ⟨.single item child, rfl, by rw [Content.children], .single hgives⟩
  · obtain ⟨contents, rfl, hpartitions⟩ := hopens children position helement hread
    exact ⟨.fragment item contents, rfl, by rw [Content.children], .fragment hread hpartitions⟩

theorem readChildren_lays {low high start : Nat} {cursors : List Cursor}
    (hordered : Ordered cursors)
    (hsizes : ∀ item ∈ cursors, item.node.start ≤ item.node.stop)
    (hopens : ∀ item ∈ cursors, source.Opens item)
    (hfirst : ∀ item ∈ cursors, item.isChildBetween low high = true → start ≤ item.node.start)
    (hsize : start ≤ high) (hend : high ≤ source.bytes.length)
    (h : source.readChildren low high start cursors = .ok children) :
    ∃ contents, childrenOf contents = children ∧
      Lays start high (cursors.filter (·.isChildBetween low high)) contents ∧
      ∀ content ∈ contents, source.Fits content := by
  induction cursors generalizing start children with
  | nil =>
      rw [readChildren] at h
      obtain ⟨whole, hwhole, hlays, hfits⟩ :=
        readGap_lays hsize hend (by simp) (.nil high) (by simp) h
      exact ⟨whole, by simpa [childrenOf] using hwhole, hlays, hfits⟩
  | cons item cursors ih =>
      obtain ⟨hnext, hrest⟩ := List.pairwise_cons.mp hordered
      have hsizes' := fun other hmem => hsizes other (List.mem_cons_of_mem item hmem)
      have hopens' := fun other hmem => hopens other (List.mem_cons_of_mem item hmem)
      have hfirst' := fun other hmem => hfirst other (List.mem_cons_of_mem item hmem)
      rw [readChildren] at h
      split at h
      case isTrue hbetween =>
        obtain ⟨hkind, -, hstop⟩ := Cursor.isChildBetween_iff.mp hbetween
        have hwidth := hsizes item List.mem_cons_self
        obtain ⟨gap, hgap, h⟩ := exists_of_bind_eq_ok h
        obtain ⟨here, hhere, h⟩ := exists_of_bind_eq_ok h
        obtain ⟨others, hothers, h⟩ := exists_of_bind_eq_ok h
        cases h
        obtain ⟨contents, rfl, hlays, hfits⟩ :=
          ih hrest hsizes' hopens' (fun other hmem _ => hnext other hmem) hstop hothers
        obtain ⟨content, hitem, rfl, hfit⟩ :=
          exists_content hkind (hopens item List.mem_cons_self) hhere
        obtain ⟨hcontentStart, hcontentStop⟩ := content.range_of_item? hitem
        rw [← hcontentStop] at hlays hwidth
        -- the node goes first, and before it the text up to it, if there is any
        have hnode := hlays.node hitem hcontentStart hwidth
        obtain ⟨whole, hwhole, hlays, hfits⟩ :=
          readGap_lays (hfirst item List.mem_cons_self hbetween) (by omega)
            (by simp [hitem]) hnode (List.forall_mem_cons.mpr ⟨hfit, hfits⟩) hgap
        refine ⟨whole, ?_, ?_, hfits⟩
        · rw [hwhole, childrenOf, List.append_assoc]
        · rw [List.filter_cons, if_pos hbetween]
          exact hlays
      case isFalse hbetween =>
        rw [List.filter_cons, if_neg hbetween]
        exact ih hrest hsizes' hopens' hfirst' hsize h

theorem kind_of_readElement_fragment {item : Cursor} {position : Position}
    (hkind : item.node.kind.isElement = true)
    (h : source.readElement item = .ok (.fragment children position)) :
    item.node.kind = .element := by
  have hother : item.node.kind ≠ .selfClosing := by
    intro hself
    rw [readElement_eq, if_pos hself] at h
    obtain ⟨name, -, h⟩ := exists_of_bind_eq_ok h
    obtain ⟨attributes, -, h⟩ := exists_of_bind_eq_ok h
    cases h
  rcases Kind.isElement_iff.mp hkind with helement | hself
  · exact helement
  · exact absurd hself hother

theorem readElement_partitions {cursor : Cursor} {tree : Tree}
    (hkind : cursor.node.kind = .element) (hformed : cursor.node.WellFormed)
    (htagged : cursor.node.Tagged) (hend : cursor.node.stop ≤ source.bytes.length)
    (hopens : ∀ item ∈ cursor.children, source.Opens item)
    (h : source.readElement cursor = .ok tree) :
    ∃ contents, tree.children = childrenOf contents ∧ source.Partitions cursor contents := by
  obtain ⟨opening, closing, hopening, hclosing, hread⟩ :=
    (readElement_eq_ok h).2 (by simp [hkind])
  have hsizes : ∀ item ∈ cursor.children, item.node.start ≤ item.node.stop := fun item hmem =>
    (Node.all_iff.mp ((Cursor.inside_of_mem_children hmem).all hformed)).1.ordered
  have hmem := Cursor.mem_children_of_closeTag? hclosing
  have hclosingSize := hsizes closing hmem
  have hclosingStop := ((Cursor.inside_of_mem_children hmem).range hformed).2
  have hfirst : ∀ item ∈ cursor.children,
      item.isChildBetween opening.node.stop closing.node.start = true →
        opening.node.stop ≤ item.node.start :=
    fun item _ hbetween => (Cursor.isChildBetween_iff.mp hbetween).2.1
  obtain ⟨contents, hcontents, hlays, hfits⟩ :=
    readChildren_lays (Cursor.children_ordered hformed) hsizes hopens hfirst
      (Cursor.tags_apart htagged hkind hopening hclosing) (by omega) hread
  exact ⟨contents, hcontents.symm, .between hopening hclosing hlays
    (hlays.tiles.bytes_eq fun content hmem => (hfits content hmem).bytes_eq) hfits⟩

end Reading

end Source

/-- What is read between the tags of an element is the program there, in pieces. -/
theorem children_partition_source {source : Source} {cursor : Cursor} {tree : Tree}
    (hkind : cursor.node.kind = .element) (hformed : cursor.node.WellFormed)
    (htagged : cursor.node.All Node.Tagged) (hend : cursor.node.stop ≤ source.bytes.length)
    (h : source.readElement cursor = .ok tree) :
    ∃ contents, tree.children = childrenOf contents ∧ source.Partitions cursor contents := by
  -- the fragments among the children are elements too, with fewer nodes below them
  induction hsize : cursor.size using Nat.strong_induction_on generalizing cursor tree with
  | h size ih =>
      have hopens : ∀ item ∈ cursor.children, source.Opens item := by
        intro item hmem inner position helement hread
        have hinside := Cursor.inside_of_mem_children hmem
        have hrange := hinside.range hformed
        have hsmaller := Cursor.size_lt_of_mem_children hmem
        exact ih item.size (by omega) (Source.kind_of_readElement_fragment helement hread)
          (hinside.all hformed) (hinside.all htagged) (by omega) hread rfl
      exact Source.readElement_partitions hkind hformed (Node.all_iff.mp htagged).1 hend hopens h

/-- A fragment between two texts, then braces with nothing between them and an element. -/
def fragmentCode : Text :=
  "<a>x<>é</>y\x7b\x7d<b/></a>".toList

def innerFragment : Node where
  kind := .element
  start := 4
  stop := 11
  children := [
    { kind := .opening, start := 4, stop := 6, field := some .openTag },
    { kind := .other "jsx_text", start := 6, stop := 8 },
    { kind := .closing, start := 8, stop := 11, field := some .closeTag }]

def outerElement : Node where
  kind := .element
  start := 0
  stop := 22
  children := [
    { kind := .opening, start := 0, stop := 3, field := some .openTag,
      children := [{ kind := .other "identifier", start := 1, stop := 2, field := some .name }] },
    { kind := .other "jsx_text", start := 3, stop := 4 },
    innerFragment,
    { kind := .other "jsx_text", start := 11, stop := 12 },
    { kind := .container, start := 12, stop := 14 },
    tagNode 14 16,
    { kind := .closing, start := 18, stop := 22, field := some .closeTag }]

theorem outerElement_partitioned :
    ∃ tree contents, (Source.ofText fragmentCode []).readElement ⟨outerElement, none⟩ = .ok tree ∧
      tree.children = [.text ['x'], .text ['é'], .text ['y'], .empty,
        .element { name := .static ['b'], position := ⟨1, 15⟩ }] ∧
      tree.children = childrenOf contents ∧
      (Source.ofText fragmentCode []).Partitions ⟨outerElement, none⟩ contents := by
  have hread : (Source.ofText fragmentCode []).readElement ⟨outerElement, none⟩ =
      .ok (.element ⟨.static ['a'], [], [.text ['x'], .text ['é'], .text ['y'], .empty,
        .element { name := .static ['b'], position := ⟨1, 15⟩ }], true, ⟨1, 1⟩⟩) := by
    with_unfolding_all rfl
  have hformed : outerElement.WellFormed := by decide
  have htagged : outerElement.All Node.Tagged := by decide
  have hend : outerElement.stop ≤ (Source.ofText fragmentCode []).bytes.length := by decide
  obtain ⟨contents, hchildren, hpartitions⟩ :=
    children_partition_source rfl hformed htagged hend hread
  exact ⟨_, contents, hread, rfl, hchildren, hpartitions⟩

end TaggedMarkup
