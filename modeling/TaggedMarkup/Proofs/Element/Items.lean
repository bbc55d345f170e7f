import TaggedMarkup.Proofs.Element.Compiled

/-!
# What a tree writes into its own template

A tree shares its template with the elements that are its children, but not
with the trees in its expressions, which have templates of their own.
`Tree.items` lists what goes into the template of a tree besides punctuation:
names, texts and expressions.  The segments of the template account for exactly
these.  From one template to the next one goes by an expression of the tree and
by a hole of the template, so the templates inside a compiled one, at any depth,
are those of the trees inside the tree.
-/

namespace TaggedMarkup

/-! ## Items -/

/-- Something that a tree writes into its own template. -/
inductive Item where
  /-- The name of a tag or of an attribute. -/
  | name (name : Text)
  /-- Text between tags, as written in the program. -/
  | text (raw : Text)
  | expression (expression : Expression)

def TagName.items : TagName → List Item
  | .static name => [.name name]
  | .dynamic expression => [.expression expression]
  | .blank => []

def Attribute.items : Attribute → List Item
  | .flag name => [.name name]
  | .string name _ _ => [.name name]
  | .expression name none _ => [.name name]
  | .expression name (some value) _ => [.name name, .expression value]
  | .spread value => [.expression value]
  | .blank => []

mutual

def Element.items : Element → List Item
  | ⟨name, attributes, children, _, _⟩ =>
    name.items ++ attributes.flatMap Attribute.items ++ itemsOfChildren children

def Child.items : Child → List Item
  | .text raw => [.text raw]
  | .expression expression => [.expression expression]
  | .element element => element.items
  | .empty => []
  | .spread expression => [.expression expression]
  | .blank => []

def itemsOfChildren : List Child → List Item
  | [] => []
  | child :: children => child.items ++ itemsOfChildren children

end

def Tree.items : Tree → List Item
  | .element root => root.items
  | .fragment children _ => itemsOfChildren children
  | .blank => []

/-! ## Segments account for items -/

def EncodedText.segment : EncodedText → Segment
  | .plain text => .text text
  | .literal text => .hole (.literal text)

/-- Where a segment comes from. -/
inductive Origin (settings : Settings) (items : List Item) : Segment → Prop
  | mark {text : Text} (h : ∀ c ∈ text, c ∈ ['<', '>', '/', '=', '.', ' ']) :
      Origin settings items (.text text)
  | name {name : Text} (h : .name name ∈ items) : Origin settings items (.text name)
  | label {name : Text} (h : .name name ∈ items) : Origin settings items (.text (name ++ ['=']))
  | value {raw value : Text} {quote : Char} (h : encodeValue raw = .ok (.between quote value)) :
      Origin settings items (.text (quote :: value ++ [quote]))
  | literal {text : Text} : Origin settings items (.hole (.literal text))
  | text {raw text : Text} (h : .text raw ∈ items)
      (hencode : encodeText (collapse raw) = .ok (.plain text)) :
      Origin settings items (.text text)
  | hole {expression : Expression} {hole : Hole} (h : .expression expression ∈ items)
      (hcompile : compileExpression settings expression = .ok hole) :
      Origin settings items (.hole hole)

/-- The segments have what an item writes. -/
def Item.WrittenTo (settings : Settings) (segments : List Segment) : Item → Prop
  | .name _ => True
  | .text raw => ∃ encoded, encodeText (collapse raw) = .ok encoded ∧
      (encoded = .plain [] ∨ encoded.segment ∈ segments)
  | .expression held => ∃ hole, compileExpression settings held = .ok hole ∧
      .hole hole ∈ segments

structure Accounts (settings : Settings) (items : List Item) (segments : List Segment) : Prop where
  origin : ∀ segment ∈ segments, Origin settings items segment
  written : ∀ item ∈ items, item.WrittenTo settings segments

section Accounts

variable {settings : Settings}

theorem Origin.mono {items others : List Item} {segment : Segment}
    (hsubset : ∀ item ∈ items, item ∈ others) (h : Origin settings items segment) :
    Origin settings others segment := by
  cases h with
  | mark h => exact .mark h
  | name h => exact .name (hsubset _ h)
  | label h => exact .label (hsubset _ h)
  | value h => exact .value h
  | literal => exact .literal
  | text h hencode => exact .text (hsubset _ h) hencode
  | hole h hcompile => exact .hole (hsubset _ h) hcompile

theorem Item.WrittenTo.mono {segments others : List Segment} {item : Item}
    (hsubset : ∀ segment ∈ segments, segment ∈ others) (h : item.WrittenTo settings segments) :
    item.WrittenTo settings others := by
  cases item with
  | name name => trivial
  | text raw =>
      obtain ⟨encoded, hencode, hwritten⟩ := h
      exact ⟨encoded, hencode, hwritten.imp_right (hsubset _)⟩
  | expression expression =>
      obtain ⟨hole, hcompile, hwritten⟩ := h
      exact ⟨hole, hcompile, hsubset _ hwritten⟩

theorem Accounts.nil : Accounts settings [] [] :=
  ⟨by simp, by simp⟩

theorem Accounts.mark {text : Text} (h : ∀ c ∈ text, c ∈ ['<', '>', '/', '=', '.', ' ']) :
    Accounts settings [] [.text text] := by
  refine ⟨?_, by simp⟩
  intro segment hmem
  rw [List.mem_singleton.mp hmem]
  exact .mark h

theorem Accounts.append {items others : List Item} {segments following : List Segment}
    (hfirst : Accounts settings items segments) (hsecond : Accounts settings others following) :
    Accounts settings (items ++ others) (segments ++ following) := by
  constructor
  · intro segment hmem
    rcases List.mem_append.mp hmem with hmem | hmem
    · exact (hfirst.origin segment hmem).mono fun item => List.mem_append_left others
    · exact (hsecond.origin segment hmem).mono fun item => List.mem_append_right items
  · intro item hmem
    rcases List.mem_append.mp hmem with hmem | hmem
    · exact (hfirst.written item hmem).mono fun segment => List.mem_append_left following
    · exact (hsecond.written item hmem).mono fun segment => List.mem_append_right segments

/-- Segments that come from items already accounted for may stand anywhere. -/
theorem Accounts.repeat {items : List Item} {segments again : List Segment}
    (h : Accounts settings items segments)
    (hagain : ∀ segment ∈ again, Origin settings items segment) :
    Accounts settings items (segments ++ again) := by
  constructor
  · intro segment hmem
    rcases List.mem_append.mp hmem with hmem | hmem
    · exact h.origin segment hmem
    · exact hagain segment hmem
  · intro item hmem
    exact (h.written item hmem).mono fun segment => List.mem_append_left again

theorem Accounts.expression {expression : Expression} {hole : Hole}
    (h : compileExpression settings expression = .ok hole) :
    Accounts settings [.expression expression] [.hole hole] := by
  constructor
  · intro segment hmem
    rw [List.mem_singleton.mp hmem]
    exact .hole List.mem_cons_self h
  · intro item hmem
    rw [List.mem_singleton.mp hmem]
    exact ⟨hole, h, List.mem_cons_self⟩

theorem Accounts.name {name text : Text} (h : text = name ∨ text = name ++ ['=']) :
    Accounts settings [.name name] [.text text] := by
  constructor
  · intro segment hmem
    rw [List.mem_singleton.mp hmem]
    rcases h with rfl | rfl
    · exact .name List.mem_cons_self
    · exact .label List.mem_cons_self
  · intro item hmem
    rw [List.mem_singleton.mp hmem]
    trivial

theorem writeName_accounts {name : TagName} {segments : List Segment}
    (h : (writeName settings name).Gives segments) : Accounts settings name.items segments := by
  cases name with
  | static name =>
      rw [writeName, Written.gives_text] at h
      subst h
      exact .name (.inl rfl)
  | dynamic expression =>
      rw [writeName, Written.gives_hole] at h
      obtain ⟨hole, hcompile, rfl⟩ := h
      exact .expression hcompile
  | blank =>
      rw [writeName] at h
      exact absurd h Written.not_gives_fail

theorem writeString_accounts {name value : Text} {segments : List Segment}
    (h : (writeString name value).Gives segments) :
    Accounts settings [.name name] segments := by
  unfold writeString at h
  split at h
  · rename_i quote taken hencode
    simp only [Written.gives_append, Written.gives_text] at h
    obtain ⟨_, _, rfl, rfl, rfl⟩ := h
    refine (Accounts.name (.inr rfl)).repeat ?_
    intro segment hmem
    rw [List.mem_singleton.mp hmem]
    exact .value hencode
  · simp only [Written.gives_append, Written.gives_text, Written.gives_hole, Except.ok.injEq,
      exists_eq_left'] at h
    obtain ⟨_, _, rfl, rfl, rfl⟩ := h
    refine (Accounts.name (.inr rfl)).repeat ?_
    intro segment hmem
    rw [List.mem_singleton.mp hmem]
    exact .literal
  · exact absurd h Written.not_gives_fail

theorem writeAttribute_accounts {item : Attribute} {segments : List Segment}
    (h : (writeAttribute settings item).Gives segments) :
    Accounts settings item.items segments := by
  have hspace : Accounts settings [] [.text [' ']] := .mark (by simp)
  cases item with
  | flag name =>
      simp only [writeAttribute, Written.gives_append, Written.gives_text] at h
      obtain ⟨_, _, rfl, rfl, rfl⟩ := h
      exact hspace.append (.name (.inl rfl))
  | string name value quote =>
      simp only [writeAttribute, Written.gives_append, Written.gives_text] at h
      obtain ⟨_, rest, rfl, hrest, rfl⟩ := h
      exact hspace.append (writeString_accounts hrest)
  | expression name value position =>
      cases value with
      | none =>
          simp only [writeAttribute, Written.gives_append, Written.not_gives_fail, false_and,
            and_false, exists_false] at h
      | some expression =>
          simp only [writeAttribute, Written.gives_append, Written.gives_text,
            Written.gives_hole] at h
          obtain ⟨_, _, ⟨_, _, rfl, rfl, rfl⟩, ⟨hole, hcompile, rfl⟩, rfl⟩ := h
          exact (hspace.append (.name (.inr rfl))).append (.expression hcompile)
  | spread expression =>
      simp only [writeAttribute, Written.gives_append, Written.gives_text, Written.gives_hole] at h
      obtain ⟨_, _, ⟨_, _, rfl, rfl, rfl⟩, ⟨hole, hcompile, rfl⟩, rfl⟩ := h
      have hdots : Accounts settings [] [.text ['.', '.', '.']] := .mark (by simp)
      exact (hspace.append hdots).append (.expression hcompile)
  | blank =>
      simp only [writeAttribute, Written.gives_append, Written.not_gives_fail, false_and,
        and_false, exists_false] at h

theorem writeAttributes_accounts {attributes : List Attribute} {segments : List Segment}
    (h : (writeAttributes settings attributes).Gives segments) :
    Accounts settings (attributes.flatMap Attribute.items) segments := by
  induction attributes generalizing segments with
  | nil =>
      rw [writeAttributes, Written.gives_empty] at h
      subst h
      exact .nil
  | cons first attributes ih =>
      rw [writeAttributes, Written.gives_append] at h
      obtain ⟨before, after, hbefore, hafter, rfl⟩ := h
      rw [List.flatMap_cons]
      exact (writeAttribute_accounts hbefore).append (ih hafter)

theorem writeText_accounts {raw : Text} {segments : List Segment}
    (h : (writeText raw).Gives segments) : Accounts settings [.text raw] segments := by
  unfold writeText at h
  split at h
  · rename_i text hencode
    rw [Written.gives_text] at h
    subst h
    constructor
    · intro segment hmem
      rw [List.mem_singleton.mp hmem]
      exact .text List.mem_cons_self hencode
    · intro item hmem
      rw [List.mem_singleton.mp hmem]
      exact ⟨_, hencode, .inr List.mem_cons_self⟩
  · rename_i text hencode
    simp only [Written.gives_hole, Except.ok.injEq, exists_eq_left'] at h
    subst h
    constructor
    · intro segment hmem
      rw [List.mem_singleton.mp hmem]
      exact .literal
    · intro item hmem
      rw [List.mem_singleton.mp hmem]
      exact ⟨_, hencode, .inr List.mem_cons_self⟩
  · exact absurd h Written.not_gives_fail

/-- Children without content have no expressions, and their texts come to nothing. -/
theorem writtenTo_of_no_content {children : List Child} {segments : List Segment}
    (h : children.any Child.hasContent = false) :
    ∀ item ∈ itemsOfChildren children, item.WrittenTo settings segments := by
  induction children with
  | nil => simp [itemsOfChildren]
  | cons child children ih =>
      simp only [List.any_cons, Bool.or_eq_false_iff] at h
      intro item hmem
      rw [itemsOfChildren] at hmem
      rcases List.mem_append.mp hmem with hmem | hmem
      · cases child with
        | text raw =>
            have hblank : collapse raw = [] := by simpa [Child.hasContent] using h.1
            simp only [Child.items, List.mem_singleton] at hmem
            subst hmem
            refine ⟨.plain [], ?_, .inl rfl⟩
            simp [hblank, encodeText, Reference.decode, bind, Except.bind, pure, Except.pure]
        | empty => simp [Child.items] at hmem
        | expression expression => simp [Child.hasContent] at h
        | element element => simp [Child.hasContent] at h
        | spread expression => simp [Child.hasContent] at h
        | blank => simp [Child.hasContent] at h
      · exact ih h.2 item hmem

mutual

theorem writeElement_accounts : ∀ (element : Element) (segments : List Segment),
    (writeElement settings element).Gives segments → Accounts settings element.items segments
  | ⟨name, attributes, children, _, _⟩, segments, h => by
    obtain ⟨named, given, hnamed, hgiven, hshape⟩ := writeElement_gives h
    have hname := writeName_accounts hnamed
    have hattributes := writeAttributes_accounts hgiven
    have hopen : Accounts settings [] [.text ['<']] := .mark (by simp)
    have hopening := (hopen.append hname).append hattributes
    rw [Element.items]
    rcases hshape with ⟨inner, hinner, rfl⟩ | ⟨hempty, rfl⟩
    · have hchildren := writeChildren_accounts children inner hinner
      have hmiddle : Accounts settings [] [.text ['>']] := .mark (by simp)
      have hwhole := (hopening.append hmiddle).append hchildren
      have hclosing : ∀ segment ∈ [Segment.text ['<', '/']] ++ named ++ [.text ['>']],
          Origin settings (name.items ++ attributes.flatMap Attribute.items ++
            itemsOfChildren children) segment := by
        intro segment hmem
        simp only [List.mem_append, List.mem_singleton] at hmem
        rcases hmem with (rfl | hmem) | rfl
        · exact .mark (by simp)
        · refine (hname.origin segment hmem).mono fun item hitem => ?_
          exact List.mem_append_left _ (List.mem_append_left _ hitem)
        · exact .mark (by simp)
      simp only [List.nil_append, List.append_nil] at hwhole
      have hall := hwhole.repeat hclosing
      simp only [List.append_assoc] at hall ⊢
      exact hall
    · have hend : Accounts settings [] [.text ['/', '>']] := .mark (by simp)
      have hwhole := hopening.append hend
      simp only [List.nil_append, List.append_nil] at hwhole
      constructor
      · intro segment hmem
        exact (hwhole.origin segment hmem).mono fun item => List.mem_append_left _
      · intro item hmem
        rcases List.mem_append.mp hmem with hmem | hmem
        · exact hwhole.written item hmem
        · exact writtenTo_of_no_content hempty item hmem

theorem writeChildren_accounts : ∀ (children : List Child) (segments : List Segment),
    (writeChildren settings children).Gives segments →
      Accounts settings (itemsOfChildren children) segments
  | [], segments, h => by
    rw [writeChildren, Written.gives_empty] at h
    subst h
    rw [itemsOfChildren]
    exact .nil
  | child :: children, segments, h => by
    rw [writeChildren, Written.gives_append] at h
    obtain ⟨before, after, hbefore, hafter, rfl⟩ := h
    rw [itemsOfChildren]
    exact (writeChild_accounts child before hbefore).append
      (writeChildren_accounts children after hafter)

theorem writeChild_accounts : ∀ (child : Child) (segments : List Segment),
    (writeChild settings child).Gives segments → Accounts settings child.items segments
  | .text raw, segments, h => by
    rw [writeChild] at h
    rw [Child.items]
    exact writeText_accounts h
  | .expression expression, segments, h => by
    rw [writeChild, Written.gives_hole] at h
    obtain ⟨hole, hcompile, rfl⟩ := h
    rw [Child.items]
    exact .expression hcompile
  | .element element, segments, h => by
    rw [writeChild] at h
    rw [Child.items]
    exact writeElement_accounts element segments h
  | .empty, segments, h => by
    rw [writeChild, Written.gives_empty] at h
    subst h
    rw [Child.items]
    exact .nil
  | .spread ⟨_, position⟩, segments, h => by
    rw [writeChild] at h
    exact absurd h Written.not_gives_fail
  | .blank, segments, h => by
    rw [writeChild] at h
    exact absurd h Written.not_gives_fail

end

/-- The template of a tree is built from segments that account for the items of the tree. -/
theorem accounts_of_compile {tree : Tree} {template : Template}
    (h : compile settings tree = .ok template) :
    ∃ segments, template = .ofSegments settings.tag segments ∧
      Accounts settings tree.items segments := by
  cases tree with
  | element element =>
      rw [compile] at h
      obtain ⟨segments, hgives, rfl⟩ := Written.toTemplate_eq_ok.mp h
      exact ⟨segments, rfl, writeElement_accounts element segments hgives⟩
  | fragment children position =>
      rw [compile] at h
      obtain ⟨segments, hgives, rfl⟩ := Written.toTemplate_eq_ok.mp h
      exact ⟨segments, rfl, writeChildren_accounts children segments hgives⟩
  | blank => simp [compile] at h

/-! ## Trees and templates inside -/

/-- Any hole is program source in the end. -/
def Hole.parts : Hole → List SourcePart
  | .source parts => parts
  | .literal text => [.code (stringLiteral text)]
  | .template inner => [.template inner]
  | .blank => []

theorem Hole.render_eq (hole : Hole) : hole.render = renderParts hole.parts := by
  cases hole <;> simp [Hole.render, Hole.parts, renderParts, SourcePart.render]

theorem compileParts_parts {expression : Expression} {hole : Hole}
    (h : compileExpression settings expression = .ok hole) :
    compileParts settings expression.parts = .ok hole.parts := by
  obtain ⟨parts, hparts, ⟨template, rfl, rfl⟩ | rfl⟩ := compileExpression_eq_ok h
  · exact hparts
  · exact hparts

theorem compileParts_append {before after : List Part} {compiled : List SourcePart}
    (h : compileParts settings (before ++ after) = .ok compiled) :
    ∃ first second, compileParts settings before = .ok first ∧
      compileParts settings after = .ok second ∧ compiled = first ++ second := by
  induction before generalizing compiled with
  | nil => exact ⟨[], compiled, by rw [compileParts], h, rfl⟩
  | cons part before ih =>
      obtain ⟨first, others, hpart, hothers, rfl⟩ := compileParts_cons h
      obtain ⟨front, second, hfront, hsecond, rfl⟩ := ih hothers
      refine ⟨first :: front, second, ?_, hsecond, rfl⟩
      rw [compileParts, hpart, hfront]
      rfl

/-- A template among compiled parts comes from a tree that stands at the same place. -/
theorem compileParts_eq_template {parts : List Part} {front back : List SourcePart}
    {template : Template}
    (h : compileParts settings parts = .ok (front ++ .template template :: back)) :
    ∃ before tree after, parts = before ++ .tree tree :: after ∧
      compileParts settings before = .ok front ∧ compile settings tree = .ok template := by
  induction front generalizing parts with
  | nil =>
      cases parts with
      | nil => simp [compileParts] at h
      | cons part parts =>
          obtain ⟨first, others, hpart, -, heq⟩ := compileParts_cons h
          simp only [List.nil_append, List.cons.injEq] at heq
          obtain ⟨rfl, -⟩ := heq
          cases part with
          | code text => simp [compilePart] at hpart
          | tree tree =>
              obtain ⟨inner, hinner, heq⟩ := compilePart_tree hpart
              cases heq
              exact ⟨[], tree, parts, rfl, by rw [compileParts], hinner⟩
  | cons first front ih =>
      cases parts with
      | nil => simp [compileParts] at h
      | cons part parts =>
          obtain ⟨same, others, hpart, hothers, heq⟩ := compileParts_cons h
          simp only [List.cons_append, List.cons.injEq] at heq
          obtain ⟨rfl, rfl⟩ := heq
          obtain ⟨before, tree, after, rfl, hbefore, htree⟩ := ih hothers
          refine ⟨part :: before, tree, after, rfl, ?_, htree⟩
          rw [compileParts, hpart, hbefore]
          rfl

theorem compileParts_mem {parts : List Part} {compiled : List SourcePart} {tree : Tree}
    (h : compileParts settings parts = .ok compiled) (hmem : .tree tree ∈ parts) :
    ∃ template, compile settings tree = .ok template ∧ .template template ∈ compiled := by
  obtain ⟨before, after, rfl⟩ := List.append_of_mem hmem
  obtain ⟨front, rest, -, hrest, rfl⟩ := compileParts_append h
  obtain ⟨first, others, hfirst, -, rfl⟩ := compileParts_cons hrest
  obtain ⟨template, htemplate, rfl⟩ := compilePart_tree hfirst
  exact ⟨template, htemplate, by simp⟩

/-- A tree, or one in the expressions of a tree inside it. -/
inductive Tree.Inside (inner : Tree) : Tree → Prop
  | self : Tree.Inside inner inner
  | nested {outer tree : Tree} {expression : Expression}
      (hitem : .expression expression ∈ outer.items) (hpart : .tree tree ∈ expression.parts)
      (h : Tree.Inside inner tree) : Tree.Inside inner outer

/-- A template, or one in the holes of a template inside it. -/
inductive Template.Inside (inner : Template) : Template → Prop
  | self : Template.Inside inner inner
  | nested {outer template : Template} {hole : Hole}
      (hhole : hole ∈ outer.holes) (hpart : .template template ∈ hole.parts)
      (h : Template.Inside inner template) : Template.Inside inner outer

/-- The expressions of a tree are the holes of its template, string literals apart. -/
theorem holes_of_compile {tree : Tree} {template : Template}
    (h : compile settings tree = .ok template) :
    (∀ hole ∈ template.holes, (∃ text, hole = .literal text) ∨
      ∃ expression, .expression expression ∈ tree.items ∧
        compileExpression settings expression = .ok hole) ∧
    ∀ expression, .expression expression ∈ tree.items →
      ∃ hole ∈ template.holes, compileExpression settings expression = .ok hole := by
  obtain ⟨segments, rfl, haccounts⟩ := accounts_of_compile h
  rw [Template.ofSegments_eq]
  constructor
  · intro hole hmem
    cases haccounts.origin _ (mem_holesOf.mp hmem) with
    | literal => exact .inl ⟨_, rfl⟩
    | hole hitem hcompile => exact .inr ⟨_, hitem, hcompile⟩
  · intro expression hmem
    obtain ⟨hole, hcompile, hwritten⟩ := haccounts.written _ hmem
    exact ⟨hole, mem_holesOf.mpr hwritten, hcompile⟩

/-- The templates inside a compiled template are those of the trees inside its tree. -/
theorem inside_compile_iff {tree : Tree} {template inner : Template}
    (h : compile settings tree = .ok template) :
    inner.Inside template ↔
      ∃ source, source.Inside tree ∧ compile settings source = .ok inner := by
  constructor
  · intro hinside
    induction hinside generalizing tree with
    | self => exact ⟨tree, .self, h⟩
    | nested hhole hpart _ ih =>
        rcases (holes_of_compile h).1 _ hhole with ⟨text, rfl⟩ | ⟨expression, hitem, hcompile⟩
        · simp [Hole.parts] at hpart
        · obtain ⟨front, back, heq⟩ := List.append_of_mem hpart
          have hparts := compileParts_parts hcompile
          rw [heq] at hparts
          obtain ⟨before, nested, after, hsplit, -, hnested⟩ := compileParts_eq_template hparts
          obtain ⟨source, hsource, hinner⟩ := ih hnested
          refine ⟨source, .nested hitem ?_ hsource, hinner⟩
          rw [hsplit]
          simp
  · rintro ⟨source, hinside, hinner⟩
    induction hinside generalizing template with
    | self =>
        rw [h, Except.ok.injEq] at hinner
        rw [hinner]
        exact .self
    | nested hitem hpart _ ih =>
        obtain ⟨hole, hhole, hcompile⟩ := (holes_of_compile h).2 _ hitem
        obtain ⟨nested, hnested, hmem⟩ := compileParts_mem (compileParts_parts hcompile) hpart
        exact .nested hhole hmem (ih hnested)

/-- If a tree can be compiled, so can every tree inside it. -/
theorem compile_of_inside {tree inner : Tree} {template : Template}
    (h : compile settings tree = .ok template) (hinside : inner.Inside tree) :
    ∃ compiled, compile settings inner = .ok compiled := by
  induction hinside generalizing template with
  | self => exact ⟨template, h⟩
  | nested hitem hpart _ ih =>
      obtain ⟨hole, -, hcompile⟩ := (holes_of_compile h).2 _ hitem
      obtain ⟨compiled, hcompiled, -⟩ := compileParts_mem (compileParts_parts hcompile) hpart
      exact ih hcompiled

end Accounts

end TaggedMarkup
