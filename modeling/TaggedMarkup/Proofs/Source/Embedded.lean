import TaggedMarkup.Proofs.Element.Items
import TaggedMarkup.Proofs.Source.Expression

/-!
# Expressions in an element

The expressions of an element are those between the braces of its attributes
and of its children, and those of the elements that are its children.
`Cursor.Embeds` finds them in the syntax tree.  An element is read into a tree
whose expressions are these, each read from its own node; only a tag name that
refers to something in scope is an expression without such a node.
-/

namespace TaggedMarkup

/-! ## In the syntax tree -/

namespace Cursor

/-- The expression of a node in a tag: between the braces of an attribute or of a spread, or an
element that stands for the value of an attribute. -/
def attributeExpression? (cursor : Cursor) : Option Cursor :=
  if cursor.node.kind = .attr then
    match cursor.content with
    | _ :: value :: _ =>
      if value.node.kind = .container then value.content.head?
      else if value.node.kind.isElement then some value
      else none
    | _ => none
  else if cursor.node.kind = .container then
    cursor.content.head?.bind fun inner => inner.content.head?
  else none

/-- The expression between the braces of a child. -/
def childExpression? (cursor : Cursor) : Option Cursor :=
  if cursor.node.kind = .container then
    cursor.content.head?.bind fun inner =>
      if inner.node.kind = .spread then inner.content.head? else some inner
  else none

/-- The nodes among which the attributes of an element stand. -/
def tagNodes (cursor : Cursor) : List Cursor :=
  if cursor.node.kind = .selfClosing then cursor.children
  else match cursor.openTag? with
    | some opening => if (opening.child? .name).isNone then [] else opening.children
    | none => []

theorem isChildBetween_iff {cursor : Cursor} {low high : Nat} :
    cursor.isChildBetween low high = true ↔
      (cursor.node.kind.isElement = true ∨ cursor.node.kind = .container) ∧
        low ≤ cursor.node.start ∧ cursor.node.stop ≤ high := by
  simp [isChildBetween, and_assoc]

/-- The nodes between the tags of an element that are not text. -/
def childNodes (cursor : Cursor) : List Cursor :=
  if cursor.node.kind = .selfClosing then []
  else match cursor.openTag?, cursor.closeTag? with
    | some opening, some closing =>
      cursor.children.filter (·.isChildBetween opening.node.stop closing.node.start)
    | _, _ => []

/-- An expression is one of those of an element. -/
inductive Embeds : Cursor → Cursor → Prop
  | tag {element item value : Cursor} (hmem : item ∈ element.tagNodes)
      (hnamed : item.node.named = true) (h : item.attributeExpression? = some value) :
      Embeds element value
  | child {element item value : Cursor} (hmem : item ∈ element.childNodes)
      (h : item.childExpression? = some value) : Embeds element value
  | nested {element item value : Cursor} (hmem : item ∈ element.childNodes)
      (hkind : item.node.kind.isElement = true) (h : Embeds item value) : Embeds element value

end Cursor

/-! ## Items and nodes -/

/-- The expressions among the items are those read from the nodes with a property, apart from
expressions that are only code. -/
structure Source.Holds (source : Source) (values : Cursor → Prop) (items : List Item) : Prop where
  sound : ∀ held, .expression held ∈ items → (∀ tree, .tree tree ∉ held.parts) ∨
    ∃ value, values value ∧ source.readExpression value = .ok held
  complete : ∀ value, values value →
    ∃ held, source.readExpression value = .ok held ∧ .expression held ∈ items

namespace Source

section Holds

variable {source : Source} {values others : Cursor → Prop} {items more : List Item}

theorem Holds.nil : source.Holds (fun _ => False) [] :=
  ⟨by simp, by simp⟩

theorem Holds.of_bare (hvalues : ∀ value, ¬ values value)
    (hitems : ∀ held, .expression held ∈ items → ∀ tree, .tree tree ∉ held.parts) :
    source.Holds values items :=
  ⟨fun held hmem => .inl (hitems held hmem), fun value h => absurd h (hvalues value)⟩

theorem Holds.append (hfirst : source.Holds values items) (hsecond : source.Holds others more) :
    source.Holds (fun value => values value ∨ others value) (items ++ more) := by
  constructor
  · intro held hmem
    rcases List.mem_append.mp hmem with hmem | hmem
    · exact (hfirst.sound held hmem).imp_right fun ⟨value, h, hread⟩ => ⟨value, .inl h, hread⟩
    · exact (hsecond.sound held hmem).imp_right fun ⟨value, h, hread⟩ => ⟨value, .inr h, hread⟩
  · intro value h
    rcases h with h | h
    · obtain ⟨held, hread, hmem⟩ := hfirst.complete value h
      exact ⟨held, hread, List.mem_append_left more hmem⟩
    · obtain ⟨held, hread, hmem⟩ := hsecond.complete value h
      exact ⟨held, hread, List.mem_append_right items hmem⟩

theorem Holds.congr (h : source.Holds values items) (hiff : ∀ value, values value ↔ others value) :
    source.Holds others items := by
  constructor
  · intro held hmem
    exact (h.sound held hmem).imp_right fun ⟨value, hvalue, hread⟩ =>
      ⟨value, (hiff value).mp hvalue, hread⟩
  · intro value hvalue
    exact h.complete value ((hiff value).mpr hvalue)

theorem Holds.single {value : Cursor} {held : Expression}
    (hread : source.readExpression value = .ok held)
    (hitems : ∀ other, .expression other ∈ items ↔ other = held) :
    source.Holds (fun other => some value = some other) items := by
  constructor
  · intro other hmem
    rw [(hitems other).mp hmem]
    exact .inr ⟨value, rfl, hread⟩
  · intro other hother
    cases hother
    exact ⟨held, hread, (hitems held).mpr rfl⟩

end Holds

/-! ## Attributes -/

section Reading

variable {source : Source} {cursor : Cursor}

theorem slice_self (source : Source) (offset : Nat) : source.slice offset offset = .ok [] := by
  have hnone : (source.bytes.take offset).drop offset = [] := by
    rw [List.drop_eq_nil_iff]
    exact List.length_take_le offset source.bytes
  rw [slice, hnone]
  rfl

theorem readParts_of_tree {stop start : Nat} {follows : Bool} {cursors : List Cursor}
    {found : Cursor} {text : Text} {tree : Tree} {others : List Part}
    (hslice : source.slice start cursor.node.start = .ok text)
    (hfound : cursor.element? = some found) (htree : source.readElement found = .ok tree)
    (hothers : source.readParts stop cursor.node.stop true cursors = .ok others) :
    source.readParts stop start follows (cursor :: cursors) =
      .ok (codeParts (unwrapGap follows cursor.mayUnwrap text) ++ .tree tree :: others) := by
  rw [readParts, hslice]
  simp only [bind, Except.bind]
  split
  · rename_i hnone
    rw [hfound] at hnone
    cases hnone
  · rename_i other hother
    rw [hfound, Option.some.injEq] at hother
    subst hother
    rw [htree, hothers]
    rfl

/-- An element read as an expression is the expression of its tree. -/
theorem readExpression_of_isElement {tree : Tree} (hkind : cursor.node.kind.isElement = true)
    (h : source.readElement cursor = .ok tree) :
    source.readExpression cursor = .ok ⟨[.tree tree], source.position cursor.node.start⟩ := by
  have hself : cursor.element? = some cursor := by
    obtain ⟨⟨kind, start, stop, named, field, missing, children⟩, before⟩ := cursor
    rw [Cursor.element?, Node.element?, if_pos hkind]
  have hnothing : ∀ follows unwraps, codeParts (unwrapGap follows unwraps []) = [] := by decide
  have hrest : source.readParts cursor.node.stop cursor.node.stop true [] = .ok [] := by
    rw [readParts, slice_self]
    rfl
  rw [readExpression, Cursor.trees_of_isSome (isSome_element?_of_isElement hkind),
    readParts_of_tree (slice_self source _) hself h hrest, hnothing]
  rfl

theorem readAttribute_holds {item : Attribute} (hkind : cursor.node.kind = .attr)
    (h : source.readAttribute cursor = .ok item) :
    source.Holds (fun value => cursor.attributeExpression? = some value) item.items := by
  unfold readAttribute at h
  split at h
  · cases h
  · rename_i name hcontent
    obtain ⟨text, -, h⟩ := exists_of_bind_eq_ok h
    cases h
    refine .of_bare ?_ (by simp [Attribute.items])
    simp [Cursor.attributeExpression?, hkind, hcontent]
  · rename_i name value rest hcontent
    obtain ⟨text, -, h⟩ := exists_of_bind_eq_ok h
    dsimp only at h
    split at h
    case isTrue hstring =>
      obtain ⟨raw, -, h⟩ := exists_of_bind_eq_ok h
      have hnone : cursor.attributeExpression? = none := by
        simp [Cursor.attributeExpression?, hkind, hcontent, hstring, Kind.isElement]
      split at h
      · cases h
      · cases h
        exact .of_bare (by simp [hnone]) (by simp [Attribute.items])
    case isFalse =>
      split at h
      case isTrue hbraces =>
        have hvalue : cursor.attributeExpression? = value.content.head? := by
          simp [Cursor.attributeExpression?, hkind, hcontent, hbraces]
        split at h
        · rename_i hempty
          cases h
          exact .of_bare (by simp [hvalue, hempty]) (by simp [Attribute.items])
        · rename_i inner others hinner
          split at h
          · cases h
          · obtain ⟨held, hread, h⟩ := exists_of_bind_eq_ok h
            cases h
            rw [hvalue, hinner]
            exact .single hread (by simp [Attribute.items])
      case isFalse hbraces =>
        split at h
        case isTrue helement =>
          obtain ⟨tree, htree, h⟩ := exists_of_bind_eq_ok h
          cases h
          have hvalue : cursor.attributeExpression? = some value := by
            simp [Cursor.attributeExpression?, hkind, hcontent, hbraces, helement]
          rw [hvalue]
          exact .single (readExpression_of_isElement helement htree) (by simp [Attribute.items])
        case isFalse => cases h

theorem readSpread_holds {item : Attribute} (hkind : cursor.node.kind = .container)
    (h : source.readSpread cursor = .ok item) :
    source.Holds (fun value => cursor.attributeExpression? = some value) item.items := by
  unfold readSpread at h
  split at h
  · cases h
  · rename_i inner others hinner
    split at h
    · split at h
      · cases h
      · rename_i value rest hvalue
        obtain ⟨held, hread, h⟩ := exists_of_bind_eq_ok h
        cases h
        have hfound : cursor.attributeExpression? = some value := by
          simp [Cursor.attributeExpression?, hkind, hinner, hvalue]
        rw [hfound]
        exact .single hread (by simp [Attribute.items])
    · cases h

/-- An expression of one of the named nodes of a tag. -/
def AttributeAmong (cursors : List Cursor) (value : Cursor) : Prop :=
  ∃ item ∈ cursors, item.node.named = true ∧ item.attributeExpression? = some value

theorem attributeAmong_cons {cursors : List Cursor} {value : Cursor} :
    AttributeAmong (cursor :: cursors) value ↔
      (cursor.node.named = true ∧ cursor.attributeExpression? = some value) ∨
        AttributeAmong cursors value := by
  simp [AttributeAmong]

theorem readAttributes_holds {cursors : List Cursor} {attributes : List Attribute}
    (h : source.readAttributes cursors = .ok attributes) :
    source.Holds (AttributeAmong cursors) (attributes.flatMap Attribute.items) := by
  induction cursors generalizing attributes with
  | nil =>
      rw [readAttributes] at h
      cases h
      exact Holds.nil.congr (by simp [AttributeAmong])
  | cons cursor cursors ih =>
      have hskip : (cursor.node.named = true → cursor.attributeExpression? = none) →
          source.readAttributes cursors = .ok attributes →
          source.Holds (AttributeAmong (cursor :: cursors))
            (attributes.flatMap Attribute.items) := by
        intro hnone hrest
        refine (ih hrest).congr fun value => ?_
        rw [attributeAmong_cons]
        simp_all
      have hstep : ∀ {first : Attribute} {rest : List Attribute}, cursor.node.named = true →
          source.Holds (fun value => cursor.attributeExpression? = some value) first.items →
          source.readAttributes cursors = .ok rest →
          source.Holds (AttributeAmong (cursor :: cursors))
            ((first :: rest).flatMap Attribute.items) := by
        intro first rest hnamed hfirst hrest
        rw [List.flatMap_cons]
        refine (hfirst.append (ih hrest)).congr fun value => ?_
        rw [attributeAmong_cons]
        simp [hnamed]
      rw [readAttributes] at h
      split at h
      · rename_i hunnamed
        exact hskip (by simp_all) h
      · rename_i hnamed
        have hnamed : cursor.node.named = true := by simpa using hnamed
        split at h
        · rename_i hkind
          obtain ⟨first, hfirst, h⟩ := exists_of_bind_eq_ok h
          obtain ⟨rest, hrest, h⟩ := exists_of_bind_eq_ok h
          cases h
          exact hstep hnamed (readAttribute_holds hkind hfirst) hrest
        · split at h
          · rename_i hkind
            obtain ⟨first, hfirst, h⟩ := exists_of_bind_eq_ok h
            obtain ⟨rest, hrest, h⟩ := exists_of_bind_eq_ok h
            cases h
            exact hstep hnamed (readSpread_holds hkind hfirst) hrest
          · rename_i hattr hcontainer
            exact hskip (by simp [Cursor.attributeExpression?, hattr, hcontainer]) h

/-! ## Children -/

theorem readName_holds {name : TagName} (h : source.readName cursor = .ok name) :
    source.Holds (fun _ => False) name.items := by
  unfold readName at h
  split at h
  · cases h
  · obtain ⟨text, -, h⟩ := exists_of_bind_eq_ok h
    split at h
    · rename_i classified hclassified
      cases h
      refine .of_bare (by simp) ?_
      unfold TagName.classify at hclassified
      split at hclassified
      · cases hclassified
      · split at hclassified <;> cases hclassified <;> simp [TagName.items]
    · cases h

theorem readGap_holds {start stop : Nat} {children : List Child}
    (h : source.readGap start stop = .ok children) :
    source.Holds (fun _ => False) (itemsOfChildren children) := by
  unfold readGap at h
  split at h
  · obtain ⟨raw, -, h⟩ := exists_of_bind_eq_ok h
    cases h
    exact .of_bare (by simp) (by simp [itemsOfChildren, Child.items])
  · cases h
    exact .of_bare (by simp) (by simp [itemsOfChildren])

theorem itemsOfChildren_append (first second : List Child) :
    itemsOfChildren (first ++ second) = itemsOfChildren first ++ itemsOfChildren second := by
  induction first with
  | nil => simp [itemsOfChildren]
  | cons child first ih => simp [itemsOfChildren, ih]

/-- An expression that a node adds to the children of an element. -/
def ChildGives (cursor value : Cursor) : Prop :=
  cursor.childExpression? = some value ∨
    cursor.node.kind.isElement = true ∧ cursor.Embeds value

theorem readChild_holds {children : List Child}
    (hkind : cursor.node.kind.isElement = true ∨ cursor.node.kind = .container)
    (helement : cursor.node.kind.isElement = true → ∀ tree,
      source.readElement cursor = .ok tree → source.Holds cursor.Embeds tree.items)
    (h : source.readChild cursor = .ok children) :
    source.Holds (ChildGives cursor) (itemsOfChildren children) := by
  unfold readChild at h
  split at h
  case isTrue hbraces =>
    have hgives : ∀ value, ChildGives cursor value ↔ cursor.childExpression? = some value := by
      simp [ChildGives, hbraces, Kind.isElement]
    split at h
    · rename_i hempty
      cases h
      refine .of_bare ?_ (by simp [itemsOfChildren, Child.items])
      simp [hgives, Cursor.childExpression?, hbraces, hempty]
    · rename_i inner others hinner
      split at h
      · rename_i hspread
        split at h
        · cases h
        · rename_i value rest hvalue
          obtain ⟨held, hread, h⟩ := exists_of_bind_eq_ok h
          cases h
          have hfound : cursor.childExpression? = some value := by
            simp [Cursor.childExpression?, hbraces, hinner, hspread, hvalue]
          refine (Holds.single hread ?_).congr fun other => ?_
          · simp [itemsOfChildren, Child.items]
          · rw [hgives, hfound]
      · rename_i hspread
        obtain ⟨held, hread, h⟩ := exists_of_bind_eq_ok h
        cases h
        have hfound : cursor.childExpression? = some inner := by
          simp [Cursor.childExpression?, hbraces, hinner, hspread]
        refine (Holds.single hread ?_).congr fun other => ?_
        · simp [itemsOfChildren, Child.items]
        · rw [hgives, hfound]
  case isFalse hbraces =>
    have hkind := hkind.resolve_right hbraces
    obtain ⟨tree, htree, h⟩ := exists_of_bind_eq_ok h
    have hitems : itemsOfChildren children = tree.items := by
      split at h <;> cases h <;> simp [Tree.items, itemsOfChildren, Child.items]
    rw [hitems]
    refine (helement hkind tree htree).congr fun value => ?_
    simp [ChildGives, Cursor.childExpression?, hbraces, hkind]

theorem readChildren_holds {low high start : Nat} {cursors : List Cursor} {children : List Child}
    (helement : ∀ cursor ∈ cursors, cursor.node.kind.isElement = true → ∀ tree,
      source.readElement cursor = .ok tree → source.Holds cursor.Embeds tree.items)
    (h : source.readChildren low high start cursors = .ok children) :
    source.Holds
      (fun value => ∃ item ∈ cursors.filter (·.isChildBetween low high), ChildGives item value)
      (itemsOfChildren children) := by
  induction cursors generalizing start children with
  | nil =>
      rw [readChildren] at h
      exact (readGap_holds h).congr (by simp)
  | cons cursor cursors ih =>
      have hlater := fun other hmem => helement other (List.mem_cons_of_mem cursor hmem)
      rw [readChildren] at h
      split at h
      case isTrue hbetween =>
        obtain ⟨gap, hgap, h⟩ := exists_of_bind_eq_ok h
        obtain ⟨here, hhere, h⟩ := exists_of_bind_eq_ok h
        obtain ⟨rest, hrest, h⟩ := exists_of_bind_eq_ok h
        cases h
        have hkind := (Cursor.isChildBetween_iff.mp hbetween).1
        have hown := readChild_holds hkind (helement cursor List.mem_cons_self) hhere
        rw [itemsOfChildren_append, itemsOfChildren_append]
        refine (((readGap_holds hgap).append hown).append (ih hlater hrest)).congr fun value => ?_
        simp [hbetween]
      case isFalse hbetween =>
        refine (ih hlater h).congr fun value => ?_
        simp [hbetween]

/-! ## Elements -/

theorem embeds_iff {value : Cursor} :
    cursor.Embeds value ↔ AttributeAmong cursor.tagNodes value ∨
      ∃ item ∈ cursor.childNodes, ChildGives item value := by
  constructor
  · intro h
    cases h with
    | tag hmem hnamed h => exact .inl ⟨_, hmem, hnamed, h⟩
    | child hmem h => exact .inr ⟨_, hmem, .inl h⟩
    | nested hmem hkind h => exact .inr ⟨_, hmem, .inr ⟨hkind, h⟩⟩
  · rintro (⟨item, hmem, hnamed, h⟩ | ⟨item, hmem, h | ⟨hkind, h⟩⟩)
    · exact .tag hmem hnamed h
    · exact .child hmem h
    · exact .nested hmem hkind h

/-- The expressions of a tree are those of the element it is read from. -/
theorem readElement_holds {tree : Tree} (h : source.readElement cursor = .ok tree) :
    source.Holds cursor.Embeds tree.items := by
  induction hsize : cursor.size using Nat.strongRecOn generalizing cursor tree with
  | ind size ih =>
      have helement : ∀ child ∈ cursor.children, child.node.kind.isElement = true → ∀ tree,
          source.readElement child = .ok tree → source.Holds child.Embeds tree.items := by
        intro child hmem _ tree htree
        have hsmaller := Cursor.size_lt_of_mem_children hmem
        exact ih child.size (by omega) htree rfl
      unfold readElement at h
      dsimp only at h
      split at h
      case isTrue hkind =>
        obtain ⟨name, hname, h⟩ := exists_of_bind_eq_ok h
        obtain ⟨attributes, hattributes, h⟩ := exists_of_bind_eq_ok h
        cases h
        have hall := (readName_holds hname).append (readAttributes_holds hattributes)
        simp only [Tree.items, Element.items, itemsOfChildren, List.append_nil]
        refine hall.congr fun value => ?_
        rw [embeds_iff]
        simp [Cursor.tagNodes, Cursor.childNodes, hkind]
      case isFalse hkind =>
        split at h
        · rename_i opening closing hopening hclosing
          obtain ⟨children, hchildren, h⟩ := exists_of_bind_eq_ok h
          have hinner := readChildren_holds helement hchildren
          split at h
          case isTrue hnameless =>
            cases h
            refine hinner.congr fun value => ?_
            rw [embeds_iff]
            simp [Cursor.tagNodes, Cursor.childNodes, hkind, hopening, hclosing, hnameless,
              AttributeAmong]
          case isFalse hnamed =>
            obtain ⟨name, hname, h⟩ := exists_of_bind_eq_ok h
            obtain ⟨attributes, hattributes, h⟩ := exists_of_bind_eq_ok h
            cases h
            have hall := ((readName_holds hname).append
              (readAttributes_holds hattributes)).append hinner
            refine hall.congr fun value => ?_
            rw [embeds_iff]
            simp [Cursor.tagNodes, Cursor.childNodes, hkind, hopening, hclosing, hnamed]
        · cases h

end Reading

end Source

end TaggedMarkup
