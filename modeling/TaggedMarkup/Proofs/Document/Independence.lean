import TaggedMarkup.Proofs.Source.Shift
import TaggedMarkup.Proofs.Document.Splice

/-!
# Roots on their own

What a root becomes depends on the nodes and the bytes in it, not on what
surrounds it.  Two roots that are alike are read as trees with one essence,
since every part of the one is read like the part that far away in the other.
So they become the same text, or fail alike.
-/

namespace TaggedMarkup

/-! ## Stretches of one program in another -/

theorem drop_take_within {α : Type} (items : List α) {low high start stop : Nat}
    (hlow : low ≤ start) (hhigh : stop ≤ high) :
    (items.take stop).drop start =
      (((items.take high).drop low).drop (start - low)).take (stop - start) := by
  rw [List.drop_drop, Nat.add_sub_cancel' hlow, ← List.drop_take, List.take_take,
    Nat.min_eq_left hhigh]

/-- A stretch of one program that stands in another as well, so many bytes later. -/
structure Copy where
  first : Source
  second : Source
  offset : Nat
  low : Nat
  high : Nat
  same : (second.bytes.take (high + offset)).drop (low + offset) =
    (first.bytes.take high).drop low

namespace Copy

theorem slice_eq (copy : Copy) {start stop : Nat} (hlow : copy.low ≤ start)
    (hhigh : stop ≤ copy.high) :
    copy.second.slice (start + copy.offset) (stop + copy.offset) =
      copy.first.slice start stop := by
  have hshift : start + copy.offset - (copy.low + copy.offset) = start - copy.low := by omega
  have hlength : stop + copy.offset - (start + copy.offset) = stop - start := by omega
  rw [Source.slice, Source.slice, drop_take_within copy.first.bytes hlow hhigh,
    drop_take_within copy.second.bytes (Nat.add_le_add_right hlow copy.offset)
      (Nat.add_le_add_right hhigh copy.offset), copy.same, hshift, hlength]

/-- A node of fewer nodes than the bound that lies in the stretch. -/
structure Covers (copy : Copy) (bound : Nat) (cursor : Cursor) : Prop where
  size_lt : cursor.size < bound
  formed : cursor.node.WellFormed
  braced : cursor.node.All Node.Braced
  low_le : copy.low ≤ cursor.node.start
  le_high : cursor.node.stop ≤ copy.high

/-- Such a node, and the same in the other program. -/
def Twin (copy : Copy) (bound : Nat) (cursor other : Cursor) : Prop :=
  copy.Covers bound cursor ∧ cursor.Moved copy.offset other

section Twins

variable {copy : Copy} {bound : Nat} {cursor other : Cursor}

theorem Covers.ordered (h : copy.Covers bound cursor) :
    cursor.node.start ≤ cursor.node.stop :=
  (Node.all_iff.mp h.formed).1.ordered

theorem Covers.inside {inner : Cursor} {size : Nat} (h : copy.Covers bound cursor)
    (hinside : inner.node.Inside cursor.node) (hsize : inner.size < size) :
    copy.Covers size inner := by
  have hrange := hinside.range h.formed
  have hlow := h.low_le
  have hhigh := h.le_high
  exact ⟨hsize, hinside.all h.formed, hinside.all h.braced, by omega, by omega⟩

theorem Covers.child (h : copy.Covers (bound + 1) cursor) :
    ∀ child ∈ cursor.children, copy.Covers bound child := by
  intro child hmem
  have hsmaller := Cursor.size_lt_of_mem_children hmem
  have hsize := h.size_lt
  exact h.inside (Cursor.inside_of_mem_children hmem) (by omega)

theorem Covers.content (h : copy.Covers bound cursor) :
    ∀ inner ∈ cursor.content, copy.Covers bound inner := by
  intro inner hmem
  have hsmaller := Cursor.size_lt_of_mem_content hmem
  have hsize := h.size_lt
  exact h.inside (Cursor.inside_of_mem_content hmem) (by omega)

theorem Covers.first {inner : Cursor} {rest : List Cursor} (h : copy.Covers bound cursor)
    (hcontent : cursor.content = inner :: rest) : copy.Covers bound inner :=
  h.content inner (by rw [hcontent]; exact List.mem_cons_self)

theorem Twin.children (h : copy.Twin (bound + 1) cursor other) :
    List.Forall₂ (copy.Twin bound) cursor.children other.children :=
  (List.forall₂_and_left _ _).mpr ⟨h.1.child, h.2.children⟩

theorem Twin.grow (h : copy.Twin bound cursor other) : copy.Twin (bound + 1) cursor other :=
  ⟨h.1.inside .self (Nat.lt_succ_of_lt h.1.size_lt), h.2⟩

theorem Twin.child? (h : copy.Twin (bound + 1) cursor other) (field : Field) :
    Option.Rel (copy.Twin bound) (cursor.child? field) (other.child? field) := by
  refine find?_rel h.children ?_
  intro inner twin hinner
  rw [hinner.2, Node.shift_field]

theorem Twin.openTag? (h : copy.Twin (bound + 1) cursor other) :
    Option.Rel (copy.Twin bound) cursor.openTag? other.openTag? :=
  or_rel (h.child? .openTag) (head?_rel h.children)

theorem Twin.closeTag? (h : copy.Twin (bound + 1) cursor other) :
    Option.Rel (copy.Twin bound) cursor.closeTag? other.closeTag? := by
  refine or_rel (h.child? .closeTag) ?_
  rw [← List.head?_reverse, ← List.head?_reverse]
  exact head?_rel (List.forall₂_reverse_iff.mpr h.children)

theorem Twin.kind_eq (h : copy.Twin bound cursor other) : other.node.kind = cursor.node.kind := by
  rw [h.2, Node.shift_kind]

theorem Twin.braces (h : copy.Twin bound cursor other) (hkind : cursor.node.kind = .container) :
    other.content = cursor.content.map (Cursor.shift copy.offset) :=
  h.2.content_of_braced hkind (Node.all_iff.mp h.1.braced).1

theorem Twin.textOf_eq (h : copy.Twin bound cursor other) :
    copy.second.textOf other.node = copy.first.textOf cursor.node := by
  rw [Source.textOf, Source.textOf, h.2, Node.shift_start, Node.shift_stop]
  exact copy.slice_eq h.1.low_le h.1.le_high

/-! ## Reading alike -/

/-- Elements of fewer nodes than the bound are read alike in both programs. -/
def ElementsAgree (copy : Copy) (bound : Nat) : Prop :=
  ∀ cursor other, copy.Twin bound cursor other →
    AgreeOn Tree.essential (copy.first.readElement cursor) (copy.second.readElement other)

theorem readName_agree (h : copy.Twin (bound + 1) cursor other) :
    AgreeOn TagName.essential (copy.first.readName cursor) (copy.second.readName other) := by
  have hname := h.child? .name
  rw [Source.readName, Source.readName]
  generalize cursor.child? .name = found at hname
  generalize other.child? .name = twin at hname
  cases hname with
  | none => exact .error rfl
  | some hname =>
      dsimp only
      rw [hname.textOf_eq]
      refine (Agree.refl _).bind ?_
      rintro text _ rfl
      by_cases hcolon : text.contains ':' = true
      · simp only [TagName.classify, hcolon, if_true]
        exact .error rfl
      · by_cases hstatic : TagName.isStatic text = true
        · simp only [TagName.classify, hcolon, hstatic]
          exact .ok rfl
        · simp only [TagName.classify, hcolon, hstatic]
          exact .ok rfl

theorem readGap_eq {start stop : Nat} (hlow : copy.low ≤ start) (hhigh : stop ≤ copy.high) :
    copy.second.readGap (start + copy.offset) (stop + copy.offset) =
      copy.first.readGap start stop := by
  rw [Source.readGap, Source.readGap, copy.slice_eq hlow hhigh]
  simp only [Nat.add_lt_add_iff_right]

theorem essentialParts_append (first second : List Part) :
    essentialParts (first ++ second) = essentialParts first ++ essentialParts second := by
  induction first with
  | nil => simp [essentialParts]
  | cons part first ih => simp [essentialParts, ih]

theorem readParts_agree (helements : copy.ElementsAgree bound) {start stop : Nat} {follows : Bool}
    {trees : List Cursor} (hcovers : ∀ tree ∈ trees, copy.Covers bound tree)
    (hlow : copy.low ≤ start) (hhigh : stop ≤ copy.high) :
    AgreeOn essentialParts (copy.first.readParts stop start follows trees)
      (copy.second.readParts (stop + copy.offset) (start + copy.offset) follows
        (trees.map (Cursor.shift copy.offset))) := by
  induction trees generalizing start follows with
  | nil =>
      rw [List.map_nil, Source.readParts, Source.readParts, copy.slice_eq hlow hhigh]
      refine (Agree.refl _).bind ?_
      rintro text _ rfl
      exact .ok rfl
  | cons tree trees ih =>
      have htree := hcovers tree List.mem_cons_self
      have hordered := htree.ordered
      have hstart := htree.low_le
      have hstop := htree.le_high
      have hmoved : tree.Moved copy.offset (tree.shift copy.offset) := tree.moved_shift
      have hfound := hmoved.element?
      rw [List.map_cons, Source.readParts_cons_eq, Source.readParts_cons_eq]
      have hcode := copy.slice_eq hlow (Nat.le_trans hordered hstop)
      rw [Cursor.shift_node, Node.shift_start, Node.shift_stop, hcode]
      refine (Agree.refl _).bind ?_
      rintro text _ rfl
      dsimp only
      generalize hfirst : tree.element? = first at hfound
      generalize (tree.shift copy.offset).element? = second at hfound
      cases hfound with
      | none => exact .error rfl
      | @some found twin hmoved =>
          have hwithin := Node.inside_of_element? tree.before tree.node hfirst
          have hsmall := Cursor.size_le_of_element? hfirst
          have hbound := htree.size_lt
          refine (helements found twin ⟨htree.inside hwithin (by omega), hmoved⟩).bind ?_
          intro read readThere hread
          have hlater : copy.low ≤ tree.node.stop := by omega
          refine (ih (fun tree hmem => hcovers tree (List.mem_cons_of_mem _ hmem)) hlater).bind ?_
          intro parts partsThere hparts
          refine .ok ?_
          rw [essentialParts_append, essentialParts_append, essentialParts, essentialParts,
            Part.essential, Part.essential, hread, hparts]
          rfl

-- trees are found together with what stands before them, so it is not enough here that the nodes
-- are the same
theorem readExpression_agree (helements : copy.ElementsAgree bound)
    (h : copy.Covers bound cursor) :
    AgreeOn Expression.essential (copy.first.readExpression cursor)
      (copy.second.readExpression (cursor.shift copy.offset)) := by
  have hcovers : ∀ tree ∈ cursor.trees, copy.Covers bound tree := by
    intro tree hmem
    have hsmaller := Cursor.size_le_total hmem
    have htotal := cursor.total_trees_le
    have hsize := h.size_lt
    exact h.inside (Node.inside_of_mem_trees cursor.before cursor.node hmem) (by omega)
  have htrees : (cursor.shift copy.offset).trees = cursor.trees.map (Cursor.shift copy.offset) :=
    Node.trees_shift cursor.before cursor.node
  rw [Source.readExpression, Source.readExpression, htrees, Cursor.shift_node, Node.shift_start,
    Node.shift_stop]
  refine (readParts_agree helements hcovers h.low_le h.le_high).bind ?_
  intro parts partsThere hparts
  refine .ok ?_
  rw [Expression.essential, Expression.essential, hparts]

theorem readValue_agree (helements : copy.ElementsAgree bound) (h : copy.Twin bound cursor other)
    (name : Text) : AgreeOn Attribute.essential (copy.first.readValue cursor name)
      (copy.second.readValue other name) := by
  rw [Source.readValue, Source.readValue, h.kind_eq, h.textOf_eq]
  split
  case isTrue =>
    refine (Agree.refl _).bind ?_
    rintro text _ rfl
    cases text with
    | nil => exact .error rfl
    | cons quote raw => exact .ok rfl
  case isFalse =>
    split
    case isTrue hkind =>
      rw [h.braces hkind]
      cases hcontent : cursor.content with
      | nil => exact .ok rfl
      | cons inner rest =>
          have hinner := h.1.first hcontent
          simp only [List.map_cons, Cursor.shift_node, Node.shift_kind]
          split
          · exact .error rfl
          · refine (readExpression_agree helements hinner).bind ?_
            intro read readThere hread
            refine .ok ?_
            rw [Attribute.essential, Attribute.essential, hread]
    case isFalse =>
      split
      case isTrue =>
        refine (helements cursor other h).bind ?_
        intro read readThere hread
        refine .ok ?_
        simp only [Attribute.essential, Expression.essential, essentialParts, Part.essential, hread]
      case isFalse => exact .error rfl

theorem Twin.content (h : copy.Twin bound cursor other) :
    List.Forall₂ (copy.Twin bound) cursor.content other.content :=
  (List.forall₂_and_left _ _).mpr ⟨h.1.content, h.2.content⟩

theorem readAttribute_agree (helements : copy.ElementsAgree bound)
    (h : copy.Twin bound cursor other) :
    AgreeOn Attribute.essential (copy.first.readAttribute cursor)
      (copy.second.readAttribute other) := by
  have hcontent := h.content
  rw [Source.readAttribute_eq, Source.readAttribute_eq]
  generalize cursor.content = content at hcontent
  generalize other.content = contentThere at hcontent
  cases hcontent with
  | nil => exact .error rfl
  | cons hlabel hrest =>
      cases hrest with
      | nil =>
          dsimp only
          rw [hlabel.textOf_eq]
          refine (Agree.refl _).bind ?_
          rintro name _ rfl
          exact .ok rfl
      | cons hvalue _ =>
          dsimp only
          rw [hlabel.textOf_eq]
          refine (Agree.refl _).bind ?_
          rintro name _ rfl
          exact readValue_agree helements hvalue name

theorem readOperand_agree (helements : copy.ElementsAgree bound)
    (h : copy.Covers bound cursor) :
    AgreeOn Expression.essential (copy.first.readOperand cursor)
      (copy.second.readOperand (cursor.shift copy.offset)) := by
  rw [Source.readOperand, Source.readOperand, Cursor.content_shift]
  cases hcontent : cursor.content with
  | nil => exact .error rfl
  | cons value rest =>
      exact readExpression_agree helements (h.first hcontent)

theorem readSpread_agree (helements : copy.ElementsAgree bound)
    (h : copy.Twin bound cursor other) (hkind : cursor.node.kind = .container) :
    AgreeOn Attribute.essential (copy.first.readSpread cursor) (copy.second.readSpread other) := by
  rw [Source.readSpread_eq, Source.readSpread_eq, h.braces hkind]
  cases hcontent : cursor.content with
  | nil => exact .error rfl
  | cons inner rest =>
      have hinner := h.1.first hcontent
      simp only [List.map_cons, Cursor.shift_node, Node.shift_kind]
      split
      · refine (readOperand_agree helements hinner).bind ?_
        intro read readThere hread
        refine .ok ?_
        rw [Attribute.essential, Attribute.essential, hread]
      · exact .error rfl

theorem readAttributes_agree (helements : copy.ElementsAgree bound) {cursors others : List Cursor}
    (h : List.Forall₂ (copy.Twin bound) cursors others) :
    AgreeOn essentialAttributes (copy.first.readAttributes cursors)
      (copy.second.readAttributes others) := by
  induction h with
  | nil =>
      rw [Source.readAttributes, Source.readAttributes]
      exact .ok rfl
  | @cons cursor other cursors others hhead _ ih =>
      have hcons : ∀ {first second : Except Failure Attribute},
          AgreeOn Attribute.essential first second →
          AgreeOn essentialAttributes
            (first >>= fun item => copy.first.readAttributes cursors >>= fun rest =>
              pure (item :: rest))
            (second >>= fun item => copy.second.readAttributes others >>= fun rest =>
              pure (item :: rest)) := by
        intro first second hfirst
        refine hfirst.bind fun item itemThere hitem => ?_
        refine ih.bind fun rest restThere hrest => ?_
        refine .ok ?_
        rw [essentialAttributes, essentialAttributes, hitem, hrest]
      have hnamed : other.node.named = cursor.node.named := by
        rw [hhead.2, Node.shift_named]
      rw [Source.readAttributes, Source.readAttributes, hhead.kind_eq, hnamed]
      split
      · exact ih
      · split
        · exact hcons (readAttribute_agree helements hhead)
        · split
          case isTrue hkind => exact hcons (readSpread_agree helements hhead hkind)
          case isFalse => exact ih

theorem essentialChildren_append (first second : List Child) :
    essentialChildren (first ++ second) = essentialChildren first ++ essentialChildren second := by
  induction first with
  | nil => simp [essentialChildren]
  | cons child first ih => simp [essentialChildren, ih]

theorem readChild_agree (helements : copy.ElementsAgree bound) (h : copy.Twin bound cursor other) :
    AgreeOn essentialChildren (copy.first.readChild cursor) (copy.second.readChild other) := by
  rw [Source.readChild_eq, Source.readChild_eq, h.kind_eq]
  split
  case isTrue hkind =>
    rw [h.braces hkind]
    cases hcontent : cursor.content with
    | nil => exact .ok rfl
    | cons inner rest =>
        have hinner := h.1.first hcontent
        simp only [List.map_cons, Cursor.shift_node, Node.shift_kind]
        split
        · refine (readOperand_agree helements hinner).bind ?_
          intro read readThere hread
          refine .ok ?_
          simp only [essentialChildren, Child.essential, hread]
        · refine (readExpression_agree helements hinner).bind ?_
          intro read readThere hread
          refine .ok ?_
          simp only [essentialChildren, Child.essential, hread]
  case isFalse =>
    refine (helements cursor other h).bind ?_
    intro read readThere hread
    -- trees of one essence are of one kind
    cases read <;> cases readThere <;> simp only [Tree.essential, reduceCtorEq] at hread
    case element.element =>
      refine .ok ?_
      rw [Tree.element.injEq] at hread
      simp only [essentialChildren, Child.essential, hread]
    case fragment.fragment =>
      refine .ok ?_
      rw [Tree.fragment.injEq] at hread
      exact hread.1
    case blank.blank => exact .ok rfl

theorem readChildren_agree (helements : copy.ElementsAgree bound) {low high start : Nat}
    {cursors others : List Cursor} (h : List.Forall₂ (copy.Twin bound) cursors others)
    (hlow : copy.low ≤ start) (hhigh : high ≤ copy.high) :
    AgreeOn essentialChildren (copy.first.readChildren low high start cursors)
      (copy.second.readChildren (low + copy.offset) (high + copy.offset) (start + copy.offset)
        others) := by
  induction h generalizing start with
  | nil =>
      rw [Source.readChildren, Source.readChildren, readGap_eq hlow hhigh]
      generalize copy.first.readGap start high = gap
      cases gap with
      | ok gap => exact .ok rfl
      | error failure => exact .error rfl
  | @cons cursor other cursors others hhead _ ih =>
      have hordered := hhead.1.ordered
      have hstart := hhead.1.low_le
      have hstop := hhead.1.le_high
      have hbetween : other.isChildBetween (low + copy.offset) (high + copy.offset) =
          cursor.isChildBetween low high := by
        simp only [Cursor.isChildBetween, hhead.kind_eq]
        rw [hhead.2, Node.shift_start, Node.shift_stop]
        simp only [Nat.add_le_add_iff_right]
      have hthere : other.node.start = cursor.node.start + copy.offset ∧
          other.node.stop = cursor.node.stop + copy.offset := by
        rw [hhead.2, Node.shift_start, Node.shift_stop]
        exact ⟨rfl, rfl⟩
      rw [Source.readChildren, Source.readChildren, hbetween]
      split
      · rw [hthere.1, hthere.2, readGap_eq hlow (by omega)]
        refine (Agree.refl _).bind ?_
        rintro gap _ rfl
        refine (readChild_agree helements hhead).bind fun here hereThere hsame => ?_
        have hlater : copy.low ≤ cursor.node.stop := by omega
        refine (ih hlater).bind fun rest restThere hrest => ?_
        refine .ok ?_
        rw [essentialChildren_append, essentialChildren_append, essentialChildren_append,
          essentialChildren_append, hsame, hrest]
      · exact ih hlow

theorem readElement_agree (helements : copy.ElementsAgree bound)
    (h : copy.Twin (bound + 1) cursor other) :
    AgreeOn Tree.essential (copy.first.readElement cursor) (copy.second.readElement other) := by
  rw [Source.readElement_eq, Source.readElement_eq, h.kind_eq]
  split
  case isTrue =>
    refine (readName_agree h).bind fun name nameThere hname => ?_
    refine (readAttributes_agree helements h.children).bind fun items itemsThere hitems => ?_
    refine .ok ?_
    simp only [Tree.essential, Element.essential, hname, hitems]
  case isFalse =>
    have hopening := h.openTag?
    have hclosing := h.closeTag?
    generalize cursor.openTag? = opens at hopening
    generalize other.openTag? = opensThere at hopening
    generalize cursor.closeTag? = closes at hclosing
    generalize other.closeTag? = closesThere at hclosing
    cases hopening with
    | none => exact .error rfl
    | @some opening openingThere hopening =>
        cases hclosing with
        | none => exact .error rfl
        | @some closing closingThere hclosing =>
            have hlow := Nat.le_trans hopening.1.low_le hopening.1.ordered
            have hhigh := Nat.le_trans hclosing.1.ordered hclosing.1.le_high
            have hstart : openingThere.node.stop = opening.node.stop + copy.offset := by
              rw [hopening.2, Node.shift_stop]
            have hstop : closingThere.node.start = closing.node.start + copy.offset := by
              rw [hclosing.2, Node.shift_start]
            have hnameless : (openingThere.child? .name).isNone =
                (opening.child? .name).isNone :=
              isNone_of_rel (hopening.grow.child? .name)
            dsimp only
            rw [hstart, hstop, hnameless]
            refine (readChildren_agree helements h.children hlow hhigh).bind
              fun children childrenThere hchildren => ?_
            split
            · refine .ok ?_
              simp only [Tree.essential, hchildren]
            · refine (readName_agree hopening.grow).bind fun name nameThere hname => ?_
              refine (readAttributes_agree helements hopening.grow.children).bind
                fun items itemsThere hitems => ?_
              refine .ok ?_
              simp only [Tree.essential, Element.essential, hname, hitems, hchildren]

theorem elementsAgree (copy : Copy) (bound : Nat) : copy.ElementsAgree bound := by
  -- reading an element comes to other elements only below it, where there are fewer nodes
  induction bound with
  | zero =>
      intro cursor other h
      exact absurd h.1.size_lt (Nat.not_lt_zero _)
  | succ bound ih =>
      intro cursor other h
      exact readElement_agree ih h

end Twins

end Copy

/-! ## What a root becomes -/

/-- The text that is to stand in the place of a root. -/
def Document.printed (document : Document) (settings : Settings) (root : Cursor) :
    Except Failure Text := do
  let tree ← document.read root
  let template ← compile settings tree
  match template.print? with
  | some text => pure text
  | none => .error (.blank .hole)

/-- The part that a root plays in its parent is not read. -/
theorem Document.printed_with_field (document : Document) (settings : Settings) (root : Cursor)
    (field : Option Field) :
    document.printed settings ⟨{ root.node with field := field }, root.before⟩ =
      document.printed settings root := by
  have hread : document.read ⟨{ root.node with field := field }, root.before⟩ =
      document.read root := by
    obtain ⟨⟨kind, start, stop, named, part, missing, children⟩, before⟩ := root
    simp only [Document.read, Cursor.element?, Node.element?]
    by_cases helement : kind.isElement = true
    · simp only [helement, if_true]
      rw [Source.readElement_eq, Source.readElement_eq]
      rfl
    · simp only [helement]
      rfl
  rw [Document.printed, Document.printed, hread]

theorem Document.printed_agree {first second : Document} {root other : Cursor} {offset : Nat}
    (settings : Settings) (hformed : first.tree.root.WellFormed)
    (hbraced : first.tree.root.All Node.Braced) (hroot : root ∈ first.roots)
    (hnodes : other.node.detached = root.node.detached.shift offset)
    (hbytes : (second.source.bytes.take other.node.stop).drop other.node.start =
      (first.source.bytes.take root.node.stop).drop root.node.start) :
    Agree Eq (first.printed settings root) (second.printed settings other) := by
  -- the other root in the part that this one plays, which changes nothing
  let twin : Cursor := ⟨{ other.node with field := root.node.field }, other.before⟩
  have hmoved : root.Moved offset twin := Node.eq_shift_of_detached hnodes
  have hstart : other.node.start = root.node.start + offset := by
    rw [← Node.shift_start, ← hmoved]
  have hstop : other.node.stop = root.node.stop + offset := by
    rw [← Node.shift_stop, ← hmoved]
  rw [hstart, hstop] at hbytes
  rw [← second.printed_with_field settings other root.node.field]
  let copy : Copy := ⟨first.source, second.source, offset, root.node.start, root.node.stop, hbytes⟩
  have hinside := Node.inside_of_mem_trees none first.tree.root hroot
  have hcovers : copy.Covers (root.size + 1) root :=
    ⟨Nat.lt_succ_self _, hinside.all hformed, hinside.all hbraced, Nat.le_refl _, Nat.le_refl _⟩
  have hfound := hmoved.element?
  have hread : AgreeOn Tree.essential (first.read root) (second.read twin) := by
    rw [Document.read, Document.read]
    generalize helement : root.element? = found at hfound
    generalize twin.element? = foundThere at hfound
    cases hfound with
    | none =>
        rw [hmoved, Node.shift_kind]
        exact .error rfl
    | @some element elementThere hmoved =>
        have hwithin := Node.inside_of_element? root.before root.node helement
        have hsize := Cursor.size_le_of_element? helement
        exact copy.elementsAgree (root.size + 1) element elementThere
          ⟨hcovers.inside hwithin (by omega), hmoved⟩
  refine hread.bind fun tree treeThere htree => ?_
  refine (agree_of_essential_eq settings htree).bind ?_
  rintro template _ rfl
  exact .refl _

/-- Two roots of the same nodes and bytes, shifted as a whole, become the same text or fail alike,
whatever surrounds them and whatever part they play there. -/
theorem printed_of_same_root (settings : Settings) (first second : Document) (root other : Cursor)
    (hfirst : first.tree.root.WellFormed ∧ first.tree.root.All Node.Braced)
    (hsecond : second.tree.root.WellFormed ∧ second.tree.root.All Node.Braced)
    (hroot : root ∈ first.roots) (hother : other ∈ second.roots)
    (hnodes : ∃ offset, other.node.detached = root.node.detached.shift offset ∨
      root.node.detached = other.node.detached.shift offset)
    (hbytes : (first.source.bytes.take root.node.stop).drop root.node.start =
      (second.source.bytes.take other.node.stop).drop other.node.start) :
    (∃ text, first.printed settings root = .ok text ∧ second.printed settings other = .ok text) ∨
    ∃ failure stopped, first.printed settings root = .error failure ∧
      second.printed settings other = .error stopped ∧ failure.bare = stopped.bare := by
  apply Agree.same_or_fail
  obtain ⟨offset, hlater | hearlier⟩ := hnodes
  · exact Document.printed_agree settings hfirst.1 hfirst.2 hroot hlater hbytes.symm
  · exact (Document.printed_agree settings hsecond.1 hsecond.2 hother hearlier hbytes).symm

/-- An element whose child is a tree after a line break, on the right of an assignment. -/
def assignedRoot : Cursor :=
  ⟨{ elementNode 2 16 (bracesNode 5 12 (tagNode 7 9)) with field := some (.other "right") },
    some (.other "=")⟩

def assignedDocument : Document :=
  .parsed ['f', '=', '<', 'a', '>', '\x7b', '\n', '<', 'b', '/', '>', '\x7d', '<', '/', 'a', '>'] []
    { root := {
        kind := .program, start := 0, stop := 16,
        children := [statementNode 0 16 [assignmentNode 0 assignedRoot.node]] } }

/-- The same after a word that keeps line breaks, where it plays no part. -/
def returnedRoot : Cursor :=
  ⟨elementNode 7 21 (bracesNode 10 17 (tagNode 12 14)), some .returnWord⟩

def returnedDocument : Document :=
  .parsed ['r', 'e', 't', 'u', 'r', 'n', ' ',
      '<', 'a', '>', '\x7b', '\n', '<', 'b', '/', '>', '\x7d', '<', '/', 'a', '>'] []
    { root := {
        kind := .program, start := 0, stop := 21,
        children := [returnNode 0 21 returnedRoot.node] } }

/-- The second root of `namespaced`, alone. -/
def prefixedDocument : Document :=
  .parsed ['<', 'b', ':', 'c', '/', '>'] []
    { root := { kind := .program, start := 0, stop := 6, children := [tagNode 0 4] } }

theorem printed_assigned_returned :
    (∃ text, assignedDocument.printed {} assignedRoot = .ok text ∧
      returnedDocument.printed {} returnedRoot = .ok text) ∧
    ∃ failure stopped,
      (Document.parsed namespaced [] namespacedTree).printed {} ⟨tagNode 4 8, some .selfClosing⟩ =
        .error failure ∧
      prefixedDocument.printed {} ⟨tagNode 0 4, none⟩ = .error stopped ∧
      failure.bare = stopped.bare := by
  constructor
  · have hassigned : assignedDocument.roots = [assignedRoot] := rfl
    have hreturned : returnedDocument.roots = [returnedRoot] := rfl
    have hprinted : ∃ text, assignedDocument.printed {} assignedRoot = .ok text :=
      ⟨_, by with_unfolding_all rfl⟩
    rcases printed_of_same_root {} assignedDocument returnedDocument assignedRoot returnedRoot
      ⟨by decide, by decide⟩ ⟨by decide, by decide⟩ (by simp [hassigned]) (by simp [hreturned])
      ⟨5, .inl rfl⟩ (by decide) with h | ⟨failure, _, h, -⟩
    · exact h
    · obtain ⟨text, htext⟩ := hprinted
      rw [htext] at h
      cases h
  · have hroots : (Document.parsed namespaced [] namespacedTree).roots =
        [⟨tagNode 0 2, none⟩, ⟨tagNode 4 8, some .selfClosing⟩] := rfl
    have hprefixed : prefixedDocument.roots = [⟨tagNode 0 4, none⟩] := rfl
    have hfails : ∃ failure, prefixedDocument.printed {} ⟨tagNode 0 4, none⟩ = .error failure :=
      ⟨_, by with_unfolding_all rfl⟩
    rcases printed_of_same_root {} (.parsed namespaced [] namespacedTree) prefixedDocument
      ⟨tagNode 4 8, some .selfClosing⟩ ⟨tagNode 0 4, none⟩ ⟨by decide, by decide⟩
      ⟨by decide, by decide⟩ (by simp [hroots]) (by simp [hprefixed]) ⟨4, .inr rfl⟩
      (by decide) with ⟨text, -, h⟩ | h
    · obtain ⟨failure, hfailure⟩ := hfails
      rw [hfailure] at h
      cases h
    · exact h

end TaggedMarkup
