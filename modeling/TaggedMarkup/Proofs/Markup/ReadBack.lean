import TaggedMarkup.Proofs.Element.Compiled
import TaggedMarkup.Proofs.Markup.Reading

/-!
# Reading undoes compiling

The template of a tree, read as markup, is the normal form of the tree: no
name, attribute, text or expression is lost, moved or taken for another.  The
names have to be such that markup can tell where they end; texts, values and
expressions may be anything.
-/

namespace TaggedMarkup

def Mention.isReadable : Mention → Bool
  | .tag name => isReadableName name
  | .attribute name => isReadableName name
  | .expression _ => true

/-! ## The symbols of segments -/

def Segment.symbols : Segment → List Symbol
  | .text literal => symbolsOf literal
  | .hole held => [.hole held held.read]

def segmentSymbols (segments : List Segment) : List Symbol :=
  segments.flatMap Segment.symbols

@[simp] theorem segmentSymbols_nil : segmentSymbols [] = [] := rfl

@[simp] theorem segmentSymbols_text (text : Text) (segments : List Segment) :
    segmentSymbols (.text text :: segments) = symbolsOf text ++ segmentSymbols segments := rfl

@[simp] theorem segmentSymbols_hole (hole : Hole) (segments : List Segment) :
    segmentSymbols (.hole hole :: segments) =
      .hole hole hole.read :: segmentSymbols segments := rfl

@[simp] theorem segmentSymbols_append (first second : List Segment) :
    segmentSymbols (first ++ second) = segmentSymbols first ++ segmentSymbols second := by
  simp [segmentSymbols]

theorem interleave_textsOf (pending : Text) (segments : List Segment) :
    interleave (textsOf pending segments) (holeSymbols (holesOf segments)) =
      symbolsOf pending ++ segmentSymbols segments := by
  induction segments generalizing pending with
  | nil => simp [textsOf, holesOf, holeSymbols, interleave]
  | cons segment segments ih =>
      cases segment with
      | text text => simp [textsOf, holesOf, ih]
      | hole hole => simp [textsOf, holesOf, holeSymbols, interleave, ih]

theorem Template.read_ofSegments (tag : Text) (segments : List Segment) :
    (Template.ofSegments tag segments).read = readMarkup (segmentSymbols segments) := by
  have hunescape : unescape ∘ escape = id := by
    funext text
    simp
  rw [Template.ofSegments_eq, Template.read, List.map_map, hunescape, List.map_id,
    interleave_textsOf]
  rfl

/-! ## What texts and values are written as -/

theorem decoded?_eq_some {raw text : Text} :
    decoded? raw = some text ↔ Reference.decode raw = .ok text := by
  cases h : Reference.decode raw <;> simp [decoded?, h, Except.toOption]

theorem writeText_gives {raw : Text} {segments : List Segment}
    (h : (writeText raw).Gives segments) :
    ∃ text, decoded? (collapse raw) = some text ∧
      ((text.contains '<' = false ∧ segments = [.text text]) ∨
        (text.contains '<' = true ∧ segments = [.hole (.literal text)])) := by
  cases hdecode : Reference.decode (collapse raw) with
  | error error =>
      simp [writeText, encodeText, hdecode, bind, Except.bind, Written.not_gives_fail] at h
  | ok text =>
      refine ⟨text, decoded?_eq_some.mpr hdecode, ?_⟩
      cases hmarkup : text.contains '<' with
      | false =>
          simp only [writeText, encodeText, hdecode, bind, Except.bind, pure, Except.pure,
            hmarkup, Bool.false_eq_true, if_false, Written.gives_text] at h
          exact .inl ⟨rfl, h⟩
      | true =>
          simp only [writeText, encodeText, hdecode, bind, Except.bind, pure, Except.pure,
            hmarkup, if_true, Written.gives_hole, Except.ok.injEq, exists_eq_left'] at h
          exact .inr ⟨rfl, h⟩

theorem writeString_gives {name value : Text} {segments : List Segment}
    (h : (writeString name value).Gives segments) :
    ∃ text, decoded? value = some text ∧
      ((∃ quote, (quote = '"' ∨ quote = '\'') ∧ quote ∉ text ∧
          segments = [.text (name ++ ['=']), .text (quote :: text ++ [quote])]) ∨
        segments = [.text (name ++ ['=']), .hole (.literal text)]) := by
  cases hdecode : Reference.decode value with
  | error error =>
      simp [writeString, encodeValue, hdecode, bind, Except.bind, Written.not_gives_fail] at h
  | ok text =>
      refine ⟨text, decoded?_eq_some.mpr hdecode, ?_⟩
      simp only [writeString, encodeValue, hdecode, bind, Except.bind, pure, Except.pure] at h
      split at h
      · rename_i quote taken heq
        split at heq
        · simp at heq
        · rename_i hplain
          simp only [Except.ok.injEq, EncodedValue.between.injEq] at heq
          obtain ⟨hquote, rfl⟩ := heq
          simp only [Written.gives_append, Written.gives_text] at h
          obtain ⟨_, _, rfl, rfl, rfl⟩ := h
          refine .inl ⟨quote, ?_, ?_, rfl⟩
          · rw [← hquote]
            split <;> simp
          · rw [← hquote]
            split <;> simp_all
      · rename_i taken heq
        split at heq
        · simp only [Except.ok.injEq, EncodedValue.literal.injEq] at heq
          subst heq
          simp only [Written.gives_append, Written.gives_text, Written.gives_hole,
            Except.ok.injEq, exists_eq_left'] at h
          obtain ⟨_, _, rfl, rfl, rfl⟩ := h
          exact .inr rfl
        · simp at heq
      · rename_i error heq
        simp at heq

/-- Without content there is nothing left of the children. -/
theorem normalChildren?_of_no_content {children : List Child}
    (h : children.any Child.hasContent = false) : normalChildren? children = some [] := by
  induction children with
  | nil => simp [normalChildren?]
  | cons child children ih =>
      simp only [List.any_cons, Bool.or_eq_false_iff] at h
      cases child with
      | text raw =>
          have hblank : collapse raw = [] := by simpa [Child.hasContent] using h.1
          have hdecode : decoded? (collapse raw) = some [] := by
            rw [hblank, decoded?_eq_some, Reference.decode]
          simp [normalChildren?, hdecode, ih h.2, putText]
      | empty => simp [normalChildren?, ih h.2]
      | expression expression => simp [Child.hasContent] at h
      | element element => simp [Child.hasContent] at h
      | spread expression => simp [Child.hasContent] at h
      | blank => simp [Child.hasContent] at h

/-! ## Reading what was written -/

section Written

variable {settings : Settings}

mutual

theorem read_compile :
    ∀ (tree : Tree) (template : Template),
      (∀ mention ∈ tree.mentions, mention.isReadable = true) →
      compile settings tree = .ok template →
      ∃ content, tree.normalForm? = some content ∧ template.read = some content
  | .element element, template, hnames, h => by
      rw [compile] at h
      obtain ⟨segments, hgives, rfl⟩ := Written.toTemplate_eq_ok.mp h
      obtain ⟨normal, hnormal, hreads⟩ := read_writeElement element segments hnames hgives
      refine ⟨[.element normal], by simp [Tree.normalForm?, hnormal], ?_⟩
      rw [Template.read_ofSegments]
      apply readMarkup_of_reads
      simpa using hreads [] [] [] Reads.nil
  | .fragment children position, template, hnames, h => by
      rw [compile] at h
      obtain ⟨segments, hgives, rfl⟩ := Written.toTemplate_eq_ok.mp h
      obtain ⟨content, hnormal, hreads⟩ := read_writeChildren children segments hnames hgives
      refine ⟨content, by rw [Tree.normalForm?, hnormal], ?_⟩
      rw [Template.read_ofSegments]
      apply readMarkup_of_reads
      simpa using hreads [] Reads.nil
  | .blank, template, hnames, h => by
      simp [compile] at h

theorem read_compileExpression :
    ∀ (expression : Expression) (hole : Hole),
      (∀ mention ∈ expression.mentions, mention.isReadable = true) →
      compileExpression settings expression = .ok hole →
      ∃ normal, expression.normalForm? = some normal ∧
        hole.read = some (.expression normal)
  | ⟨parts, position⟩, hole, hnames, h => by
      obtain ⟨compiled, hcompile, hhole⟩ := compileExpression_eq_ok h
      obtain ⟨normal, hnormal, hread⟩ := read_compileParts parts compiled
        (fun mention hmention => hnames mention (by simp [Expression.mentions, hmention])) hcompile
      refine ⟨⟨normal, {}⟩, by simp [Expression.normalForm?, hnormal], ?_⟩
      rcases hhole with ⟨template, rfl, rfl⟩ | rfl
      · cases htemplate : template.read with
        | none => simp [readSourceParts, htemplate] at hread
        | some content =>
            simp only [readSourceParts, htemplate, Option.bind_eq_bind, Option.bind_some,
              Option.some.injEq] at hread
            simp [Hole.read, htemplate, hread]
      · simp [Hole.read, hread]

theorem read_compileParts :
    ∀ (parts : List Part) (compiled : List SourcePart),
      (∀ mention ∈ mentionsOfParts parts, mention.isReadable = true) →
      compileParts settings parts = .ok compiled →
      ∃ normal, normalParts? parts = some normal ∧ readSourceParts compiled = some normal
  | [], compiled, hnames, h => by
      simp only [compileParts, Except.ok.injEq] at h
      subst h
      exact ⟨[], by simp [normalParts?], by simp [readSourceParts]⟩
  | .code text :: parts, compiled, hnames, h => by
      simp only [mentionsOfParts, Part.mentions, List.nil_append] at hnames
      obtain ⟨first, others, hfirst, hothers, rfl⟩ := compileParts_cons h
      simp only [compilePart, Except.ok.injEq] at hfirst
      subst hfirst
      obtain ⟨normal, hnormal, hread⟩ := read_compileParts parts others hnames hothers
      exact ⟨.code text :: normal, by simp [normalParts?, hnormal],
        by simp [readSourceParts, hread]⟩
  | .tree tree :: parts, compiled, hnames, h => by
      simp only [mentionsOfParts, Part.mentions, List.mem_append] at hnames
      obtain ⟨first, others, hfirst, hothers, rfl⟩ := compileParts_cons h
      obtain ⟨template, hcompile, rfl⟩ := compilePart_tree hfirst
      obtain ⟨content, hcontent, htemplate⟩ := read_compile tree template
        (fun mention hmention => hnames mention (.inl hmention)) hcompile
      obtain ⟨normal, hnormal, hread⟩ := read_compileParts parts others
        (fun mention hmention => hnames mention (.inr hmention)) hothers
      exact ⟨.tree (.fragment content {}) :: normal, by simp [normalParts?, hcontent, hnormal],
        by simp [readSourceParts, htemplate, hread]⟩

theorem read_writeElement :
    ∀ (element : Element) (segments : List Segment),
      (∀ mention ∈ element.mentions, mention.isReadable = true) →
      (writeElement settings element).Gives segments →
      ∃ normal, element.normalForm? = some normal ∧
        ElementReads (segmentSymbols segments) normal
  | ⟨name, attributes, children, _, _⟩, segments, hnames, h => by
      simp only [Element.mentions, List.mem_append] at hnames
      obtain ⟨named, given, hnamed, hgiven, hshape⟩ := writeElement_gives h
      obtain ⟨mark, normalName, hname, hreadName⟩ := read_writeName name named
        (fun mention hmention => hnames mention (.inl (.inl hmention))) hnamed
      obtain ⟨normalAttributes, hattributes, hreadAttributes⟩ :=
        read_writeAttributes attributes given
          (fun mention hmention => hnames mention (.inl (.inr hmention))) hgiven
      rcases hshape with ⟨inner, hinner, rfl⟩ | ⟨hcontent, rfl⟩
      · obtain ⟨content, hchildren, hreadChildren⟩ := read_writeChildren children inner
          (fun mention hmention => hnames mention (.inr hmention)) hinner
        refine ⟨⟨normalName, normalAttributes, content, false, {}⟩,
          by simp [Element.normalForm?, hname, hattributes, hchildren], ?_⟩
        simpa using ElementReads.closed hreadName hreadAttributes hreadChildren
      · have hchildren := normalChildren?_of_no_content hcontent
        refine ⟨⟨normalName, normalAttributes, [], false, {}⟩,
          by simp [Element.normalForm?, hname, hattributes, hchildren], ?_⟩
        simpa using ElementReads.selfClosing hreadName hreadAttributes

theorem read_writeName :
    ∀ (name : TagName) (segments : List Segment),
      (∀ mention ∈ name.mentions, mention.isReadable = true) →
      (writeName settings name).Gives segments →
      ∃ mark normal, name.normalForm? = some normal ∧
        NameReads (segmentSymbols segments) mark normal
  | .static name, segments, hnames, h => by
      rw [writeName, Written.gives_text] at h
      subst h
      have hname : isReadableName name = true :=
        hnames (.tag name) (by simp [TagName.mentions])
      exact ⟨.word name, .static name, by simp [TagName.normalForm?],
        by simpa using NameReads.word hname⟩
  | .dynamic expression, segments, hnames, h => by
      rw [writeName, Written.gives_hole] at h
      obtain ⟨hole, hhole, rfl⟩ := h
      obtain ⟨normal, hnormal, hread⟩ :=
        read_compileExpression expression hole hnames hhole
      exact ⟨.hole hole, .dynamic normal, by simp [TagName.normalForm?, hnormal],
        by simpa [hread] using NameReads.hole hole normal⟩
  | .blank, segments, hnames, h => by
      rw [writeName] at h
      exact absurd h Written.not_gives_fail

theorem read_writeAttributes :
    ∀ (attributes : List Attribute) (segments : List Segment),
      (∀ mention ∈ mentionsOfAttributes attributes, mention.isReadable = true) →
      (writeAttributes settings attributes).Gives segments →
      ∃ normal, normalAttributes? attributes = some normal ∧
        AttributesRead (segmentSymbols segments) normal
  | [], segments, hnames, h => by
      rw [writeAttributes, Written.gives_empty] at h
      subst h
      exact ⟨[], by simp [normalAttributes?], AttributesRead.nil⟩
  | first :: attributes, segments, hnames, h => by
      simp only [mentionsOfAttributes, List.mem_append] at hnames
      rw [writeAttributes, Written.gives_append] at h
      obtain ⟨before, after, hbefore, hafter, rfl⟩ := h
      obtain ⟨item, symbols, hitem, hsymbols, hreadItem⟩ := read_writeAttribute first before
        (fun mention hmention => hnames mention (.inl hmention)) hbefore
      obtain ⟨normal, hnormal, hread⟩ := read_writeAttributes attributes after
        (fun mention hmention => hnames mention (.inr hmention)) hafter
      refine ⟨item :: normal, by simp [normalAttributes?, hitem, hnormal], ?_⟩
      rw [segmentSymbols_append, hsymbols]
      exact AttributesRead.cons hreadItem hread

theorem read_writeAttribute :
    ∀ (item : Attribute) (segments : List Segment),
      (∀ mention ∈ item.mentions, mention.isReadable = true) →
      (writeAttribute settings item).Gives segments →
      ∃ normal symbols, item.normalForm? = some normal ∧
        segmentSymbols segments = .char ' ' :: symbols ∧ AttributeReads symbols normal
  | .flag name, segments, hnames, h => by
      have hname : isReadableName name = true :=
        hnames (.attribute name) (by simp [Attribute.mentions])
      simp only [writeAttribute, Written.gives_append, Written.gives_text] at h
      obtain ⟨_, _, rfl, rfl, rfl⟩ := h
      exact ⟨.flag name, symbolsOf name, by simp [Attribute.normalForm?], by simp,
        AttributeReads.flag hname⟩
  | .string name value quote, segments, hnames, h => by
      have hname : isReadableName name = true :=
        hnames (.attribute name) (by simp [Attribute.mentions])
      simp only [writeAttribute, Written.gives_append, Written.gives_text] at h
      obtain ⟨_, after, rfl, hafter, rfl⟩ := h
      obtain ⟨text, hdecode, hshape⟩ := writeString_gives hafter
      have hnormal : (Attribute.string name value quote).normalForm? =
          some (.string name text '"') := by simp [Attribute.normalForm?, hdecode]
      rcases hshape with ⟨mark, hmark, hfree, rfl⟩ | rfl
      · refine ⟨_, symbolsOf (name ++ ['=']) ++ symbolsOf (mark :: text ++ [mark]), hnormal,
          by simp, AttributeReads.value hname ?_⟩
        intro rest
        exact readValue_quoted name rest hmark hfree
      · refine ⟨_, symbolsOf (name ++ ['=']) ++ [.hole (.literal text) (some (.text text))],
          hnormal, by simp [Hole.read], AttributeReads.value hname ?_⟩
        intro rest
        simp [readValue]
  | .expression name none position, segments, hnames, h => by
      simp only [writeAttribute, Written.gives_append, Written.not_gives_fail,
        false_and, and_false, exists_false] at h
  | .expression name (some expression) position, segments, hnames, h => by
      simp only [Attribute.mentions, List.mem_cons] at hnames
      have hname : isReadableName name = true := hnames (.attribute name) (.inl rfl)
      simp only [writeAttribute, Written.gives_append, Written.gives_text,
        Written.gives_hole] at h
      obtain ⟨_, _, ⟨_, _, rfl, rfl, rfl⟩, ⟨hole, hhole, rfl⟩, rfl⟩ := h
      obtain ⟨normal, hnormal, hread⟩ := read_compileExpression expression hole
        (fun mention hmention => hnames mention (.inr hmention)) hhole
      refine ⟨.expression name (some normal) {},
        symbolsOf (name ++ ['=']) ++ [.hole hole (some (.expression normal))],
        by simp [Attribute.normalForm?, hnormal], by simp [hread],
        AttributeReads.value hname ?_⟩
      intro rest
      simp [readValue]
  | .spread expression, segments, hnames, h => by
      simp only [writeAttribute, Written.gives_append, Written.gives_text,
        Written.gives_hole] at h
      obtain ⟨_, _, ⟨_, _, rfl, rfl, rfl⟩, ⟨hole, hhole, rfl⟩, rfl⟩ := h
      obtain ⟨normal, hnormal, hread⟩ := read_compileExpression expression hole hnames hhole
      exact ⟨.spread normal,
        symbolsOf ['.', '.', '.'] ++ [.hole hole (some (.expression normal))],
        by simp [Attribute.normalForm?, hnormal], by simp [hread],
        AttributeReads.spread hole normal⟩
  | .blank, segments, hnames, h => by
      simp only [writeAttribute, Written.gives_append, Written.not_gives_fail,
        false_and, and_false, exists_false] at h

theorem read_writeChildren :
    ∀ (children : List Child) (segments : List Segment),
      (∀ mention ∈ mentionsOfChildren children, mention.isReadable = true) →
      (writeChildren settings children).Gives segments →
      ∃ content, normalChildren? children = some content ∧
        ∀ stop, Reads stop [] stop → Reads (segmentSymbols segments ++ stop) content stop
  | [], segments, hnames, h => by
      rw [writeChildren, Written.gives_empty] at h
      subst h
      exact ⟨[], by simp [normalChildren?], fun stop hstop => hstop⟩
  | child :: children, segments, hnames, h => by
      simp only [mentionsOfChildren, List.mem_append] at hnames
      rw [writeChildren, Written.gives_append] at h
      obtain ⟨before, after, hbefore, hafter, rfl⟩ := h
      obtain ⟨content, hcontent, hreads⟩ := read_writeChildren children after
        (fun mention hmention => hnames mention (.inr hmention)) hafter
      have hchild := fun mention hmention => hnames mention (.inl hmention)
      simp only [segmentSymbols_append, List.append_assoc]
      cases child with
      | text raw =>
          rw [writeChild] at hbefore
          obtain ⟨text, hdecode, hshape⟩ := writeText_gives hbefore
          refine ⟨putText text content, by simp [normalChildren?, hdecode, hcontent], ?_⟩
          intro stop hstop
          rcases hshape with ⟨hplain, rfl⟩ | ⟨hmarkup, rfl⟩
          · simp only [List.contains_eq_mem, decide_eq_false_iff_not] at hplain
            simpa using (hreads stop hstop).text hplain
          · simpa [Hole.read] using (hreads stop hstop).demoted (.literal text) hmarkup
      | expression expression =>
          rw [writeChild, Written.gives_hole] at hbefore
          obtain ⟨hole, hhole, rfl⟩ := hbefore
          obtain ⟨normal, hnormal, hread⟩ := read_compileExpression expression hole hchild hhole
          refine ⟨.expression normal :: content, by simp [normalChildren?, hnormal, hcontent], ?_⟩
          intro stop hstop
          simpa [hread] using (hreads stop hstop).expression hole normal
      | element element =>
          rw [writeChild] at hbefore
          obtain ⟨normal, hnormal, hread⟩ := read_writeElement element before hchild hbefore
          refine ⟨.element normal :: content, by simp [normalChildren?, hnormal, hcontent], ?_⟩
          intro stop hstop
          exact hread _ _ _ (hreads stop hstop)
      | empty =>
          rw [writeChild, Written.gives_empty] at hbefore
          subst hbefore
          exact ⟨content, by simp [normalChildren?, hcontent], hreads⟩
      | spread expression =>
          cases expression
          rw [writeChild] at hbefore
          exact absurd hbefore Written.not_gives_fail
      | blank =>
          rw [writeChild] at hbefore
          exact absurd hbefore Written.not_gives_fail

end

end Written

/-- The quasis of a compiled template are escaped texts, and these texts and the holes, read as
markup, are the normal form of the tree. -/
theorem read_compiled_template (settings : Settings) (tree : Tree) (template : Template)
    (hnames : ∀ mention ∈ tree.mentions, mention.isReadable = true)
    (hcompile : compile settings tree = .ok template) :
    (template.quasis.map unescape).map escape = template.quasis ∧
      ∃ content, tree.normalForm? = some content ∧ template.read = some content := by
  refine ⟨?_, read_compile tree template hnames hcompile⟩
  obtain ⟨segments, rfl⟩ := ofSegments_of_compile hcompile
  rw [Template.ofSegments_eq]
  simp

/-- An element with a name from the scope, a value with both quotes, a spread, text that would be
markup beside text that would not, and a tree in an expression. -/
def mixedTree : Tree :=
  .element {
    name := .dynamic ⟨[.code ['F']], {}⟩
    attributes := [.string ['t'] ['&', '#', '3', '4', ';', '\''] '"', .spread ⟨[.code ['p']], {}⟩]
    children := [.text ['a', '>'], .empty, .text ['/'], .text ['&', '#', '6', '0', ';'],
      .expression ⟨[.code ['('], .tree (.element { name := .static ['b'] }), .code [')']], {}⟩] }

theorem read_compiled_mixedTree :
    (∀ mention ∈ mixedTree.mentions, mention.isReadable = true) ∧
      ∃ template, compile {} mixedTree = .ok template ∧
        template.read = some [.element {
          name := .dynamic ⟨[.code ['F']], {}⟩
          attributes := [.string ['t'] ['"', '\''] '"', .spread ⟨[.code ['p']], {}⟩]
          children := [.text ['a', '>', '/'], .text ['<'],
            .expression ⟨[.code ['('],
              .tree (.fragment [.element { name := .static ['b'] }] {}), .code [')']], {}⟩] }] := by
  have hnames : ∀ mention ∈ mixedTree.mentions, mention.isReadable = true := by decide
  obtain ⟨template, hcompile⟩ : ∃ template, compile {} mixedTree = .ok template :=
    ⟨_, by with_unfolding_all rfl⟩
  obtain ⟨-, content, hnormal, hread⟩ :=
    read_compiled_template {} mixedTree template hnames hcompile
  refine ⟨hnames, template, hcompile, ?_⟩
  rw [hread, ← hnormal]
  with_unfolding_all rfl

end TaggedMarkup
