import TaggedMarkup.Element.Segments
import TaggedMarkup.Proofs.Template.Quasis
import TaggedMarkup.Template.Print

/-!
# What compiling a tree gives

Two things that every later proof about `compile` starts from.  A tree mentions
names and expressions, at any depth; hypotheses about a tree are stated over
`Tree.mentions`.  And every template that comes out of `compile`, nested ones
included, is built from segments whose holes are string literals, templates, or
program source with templates in it: `compile_induction` is the induction over
them, proved once for all properties of compiled templates.
-/

namespace TaggedMarkup

/-! ## Names and expressions of a tree -/

/-- A static tag name, an attribute name, or an expression written in a tree. -/
inductive Mention where
  | tag (name : Text)
  | attribute (name : Text)
  | expression (expression : Expression)

mutual

/-- All names and expressions of a tree, those of the trees in its expressions too. -/
def Tree.mentions : Tree → List Mention
  | .element element => element.mentions
  | .fragment children _ => mentionsOfChildren children
  | .blank => []

def Element.mentions : Element → List Mention
  | ⟨name, attributes, children, _, _⟩ =>
    name.mentions ++ mentionsOfAttributes attributes ++ mentionsOfChildren children

def TagName.mentions : TagName → List Mention
  | .static name => [.tag name]
  | .dynamic expression => expression.mentions
  | .blank => []

def Attribute.mentions : Attribute → List Mention
  | .flag name => [.attribute name]
  | .string name _ _ => [.attribute name]
  | .expression name none _ => [.attribute name]
  | .expression name (some expression) _ => .attribute name :: expression.mentions
  | .spread expression => expression.mentions
  | .blank => []

def Child.mentions : Child → List Mention
  | .text _ => []
  | .expression expression => expression.mentions
  | .element element => element.mentions
  | .empty => []
  | .spread expression => expression.mentions
  | .blank => []

def Expression.mentions : Expression → List Mention
  | ⟨parts, position⟩ => .expression ⟨parts, position⟩ :: mentionsOfParts parts

def Part.mentions : Part → List Mention
  | .code _ => []
  | .tree tree => tree.mentions

def mentionsOfAttributes : List Attribute → List Mention
  | [] => []
  | first :: attributes => first.mentions ++ mentionsOfAttributes attributes

def mentionsOfChildren : List Child → List Mention
  | [] => []
  | child :: children => child.mentions ++ mentionsOfChildren children

def mentionsOfParts : List Part → List Mention
  | [] => []
  | part :: parts => part.mentions ++ mentionsOfParts parts

end

/-! ## Writing without a failure -/

namespace Written

/-- Everything was written: there was no failure, and these are the segments. -/
def Gives (written : Written) (segments : List Segment) : Prop :=
  written = ⟨segments, none⟩

theorem gives_empty {segments : List Segment} :
    Gives {} segments ↔ segments = [] := by
  simp [Gives, eq_comm]

theorem gives_text {value : Text} {segments : List Segment} :
    (text value).Gives segments ↔ segments = [.text value] := by
  simp [Gives, text, eq_comm]

theorem not_gives_fail {failure : Failure} {segments : List Segment} :
    ¬ (fail failure).Gives segments := by
  simp [Gives, fail]

theorem gives_hole {result : Except Failure Hole} {segments : List Segment} :
    (hole result).Gives segments ↔
      ∃ value, result = .ok value ∧ segments = [.hole value] := by
  cases result with
  | ok value => simp [Gives, hole, eq_comm]
  | error failure => simp [Gives, hole, fail]

theorem gives_append {first second : Written} {segments : List Segment} :
    (first ++ second).Gives segments ↔
      ∃ before after, first.Gives before ∧ second.Gives after ∧
        segments = before ++ after := by
  obtain ⟨before, failure⟩ := first
  obtain ⟨after, second⟩ := second
  change append _ _ = _ ↔ _
  cases failure with
  | some failure => simp [append, Gives]
  | none =>
      constructor
      · intro h
        simp only [append, mk.injEq] at h
        exact ⟨before, after, rfl, by rw [Gives, h.2], h.1.symm⟩
      · rintro ⟨before', after', hfirst, hsecond, rfl⟩
        simp only [Gives, mk.injEq, and_true] at hfirst hsecond
        obtain ⟨rfl, rfl⟩ := hsecond
        rw [hfirst]
        rfl

theorem Gives.unique {written : Written} {first second : List Segment}
    (hfirst : written.Gives first) (hsecond : written.Gives second) :
    first = second := by
  rw [Gives, hfirst, mk.injEq] at hsecond
  exact hsecond.1

theorem toTemplate_eq_ok {tag : Text} {written : Written} {template : Template} :
    written.toTemplate tag = .ok template ↔
      ∃ segments, written.Gives segments ∧
        template = Template.ofSegments tag segments := by
  obtain ⟨segments, failure⟩ := written
  cases failure with
  | some failure => simp [Gives]
  | none => simp [Gives, eq_comm]

end Written

theorem compileParts_cons {settings : Settings} {part : Part} {parts : List Part}
    {compiled : List SourcePart}
    (h : compileParts settings (part :: parts) = .ok compiled) :
    ∃ first others, compilePart settings part = .ok first ∧
      compileParts settings parts = .ok others ∧ compiled = first :: others := by
  rw [compileParts] at h
  cases hfirst : compilePart settings part with
  | error failure => simp [hfirst, bind, Except.bind] at h
  | ok first =>
      cases hothers : compileParts settings parts with
      | error failure => simp [hfirst, hothers, bind, Except.bind] at h
      | ok others =>
          simp [hfirst, hothers, bind, Except.bind, pure, Except.pure] at h
          exact ⟨first, others, rfl, rfl, h.symm⟩

theorem compilePart_tree {settings : Settings} {tree : Tree} {compiled : SourcePart}
    (h : compilePart settings (.tree tree) = .ok compiled) :
    ∃ template, compile settings tree = .ok template ∧
      compiled = .template template := by
  rw [compilePart] at h
  cases htree : compile settings tree with
  | error failure => simp [htree, Except.map] at h
  | ok template =>
      simp only [htree, Except.map, Except.ok.injEq] at h
      exact ⟨template, rfl, h.symm⟩

/-- An expression that is one tree becomes a template, and any other becomes source. -/
theorem compileExpression_eq_ok {settings : Settings} {expression : Expression} {hole : Hole}
    (h : compileExpression settings expression = .ok hole) :
    ∃ parts, compileParts settings expression.parts = .ok parts ∧
      ((∃ template, parts = [.template template] ∧ hole = .template template) ∨
        hole = .source parts) := by
  obtain ⟨parts, position⟩ := expression
  unfold compileExpression at h
  split at h
  · rename_i tree place heq
    cases heq
    cases htree : compile settings tree with
    | error failure => simp [htree, Except.map] at h
    | ok template =>
        simp only [htree, Except.map, Except.ok.injEq] at h
        refine ⟨[.template template], ?_, .inl ⟨template, rfl, h.symm⟩⟩
        simp [compileParts, compilePart, htree, Except.map, bind, Except.bind, pure, Except.pure]
  · rename_i others place hshape heq
    cases heq
    cases hparts : compileParts settings parts with
    | error failure => simp [hparts, Except.map] at h
    | ok compiled =>
        simp only [hparts, Except.map, Except.ok.injEq] at h
        exact ⟨compiled, rfl, .inr h.symm⟩

/-- An element is written with its name twice and its children between, or, without content,
with its name once. -/
theorem writeElement_gives {settings : Settings} {name : TagName}
    {attributes : List Attribute} {children : List Child} {explicitClose : Bool}
    {position : Position} {segments : List Segment}
    (h : (writeElement settings
      ⟨name, attributes, children, explicitClose, position⟩).Gives segments) :
    ∃ named given, (writeName settings name).Gives named ∧
      (writeAttributes settings attributes).Gives given ∧
      ((∃ inner, (writeChildren settings children).Gives inner ∧
          segments = [.text ['<']] ++ named ++ given ++ [.text ['>']] ++ inner ++
            [.text ['<', '/']] ++ named ++ [.text ['>']]) ∨
        (children.any Child.hasContent = false ∧
          segments = [.text ['<']] ++ named ++ given ++ [.text ['/', '>']])) := by
  rw [writeElement] at h
  split at h
  · simp only [Written.gives_append, Written.gives_text] at h
    obtain ⟨_, _, ⟨_, closing, ⟨_, _, ⟨_, inner, ⟨_, _, ⟨_, given, ⟨_, named, rfl, hnamed, rfl⟩,
      hgiven, rfl⟩, rfl, rfl⟩, hinner, rfl⟩, rfl, rfl⟩, hclosing, rfl⟩, rfl, rfl⟩ := h
    obtain rfl := hclosing.unique hnamed
    exact ⟨closing, given, hnamed, hgiven, .inl ⟨inner, hinner, rfl⟩⟩
  · rename_i hcontent
    simp only [Bool.or_eq_true, not_or, Bool.not_eq_true] at hcontent
    simp only [Written.gives_append, Written.gives_text] at h
    obtain ⟨_, _, ⟨_, given, ⟨_, named, rfl, hnamed, rfl⟩, hgiven, rfl⟩, rfl, rfl⟩ := h
    exact ⟨named, given, hnamed, hgiven, .inr ⟨hcontent.1, rfl⟩⟩

/-! ## Induction over compiled templates -/

/-- What a property of templates and holes has to satisfy to hold of everything that is compiled
from trees whose expressions all satisfy `onExpression`. -/
structure Inherited (settings : Settings) (onExpression : Expression → Prop)
    (onHole : Hole → Prop) (onTemplate : Template → Prop) : Prop where
  literal : ∀ text, onHole (.literal text)
  nested : ∀ template, onTemplate template → onHole (.template template)
  source : ∀ expression parts, onExpression expression →
    compileParts settings expression.parts = .ok parts →
    (∀ template, .template template ∈ parts → onTemplate template) →
    onHole (.source parts)
  built : ∀ segments, (∀ hole, .hole hole ∈ segments → onHole hole) →
    onTemplate (.ofSegments settings.tag segments)

section Induction

variable {settings : Settings} {onExpression : Expression → Prop}
  {onHole : Hole → Prop} {onTemplate : Template → Prop}

mutual

theorem compile_induction (inherited : Inherited settings onExpression onHole onTemplate) :
    ∀ (tree : Tree) (template : Template),
      (∀ expression, .expression expression ∈ tree.mentions → onExpression expression) →
      compile settings tree = .ok template → onTemplate template
  | .element element, template, hmentions, h => by
      rw [compile] at h
      obtain ⟨segments, hgives, rfl⟩ := Written.toTemplate_eq_ok.mp h
      exact inherited.built segments
        (writeElement_holes inherited element segments hmentions hgives)
  | .fragment children position, template, hmentions, h => by
      rw [compile] at h
      obtain ⟨segments, hgives, rfl⟩ := Written.toTemplate_eq_ok.mp h
      exact inherited.built segments
        (writeChildren_holes inherited children segments hmentions hgives)
  | .blank, template, hmentions, h => by
      simp [compile] at h

theorem compileExpression_holes
    (inherited : Inherited settings onExpression onHole onTemplate) :
    ∀ (expression : Expression) (hole : Hole),
      (∀ inner, .expression inner ∈ expression.mentions → onExpression inner) →
      compileExpression settings expression = .ok hole → onHole hole
  | ⟨parts, position⟩, hole, hmentions, h => by
      have hparts : ∀ inner, .expression inner ∈ mentionsOfParts parts → onExpression inner :=
        fun inner hinner => hmentions inner (by simp [Expression.mentions, hinner])
      obtain ⟨compiled, hcompile, hhole⟩ := compileExpression_eq_ok h
      have htemplates := compileParts_templates inherited parts compiled hparts hcompile
      rcases hhole with ⟨template, rfl, rfl⟩ | rfl
      · exact inherited.nested template (htemplates template (by simp))
      · exact inherited.source ⟨parts, position⟩ compiled
          (hmentions _ (by simp [Expression.mentions])) hcompile htemplates

theorem compileParts_templates
    (inherited : Inherited settings onExpression onHole onTemplate) :
    ∀ (parts : List Part) (compiled : List SourcePart),
      (∀ inner, .expression inner ∈ mentionsOfParts parts → onExpression inner) →
      compileParts settings parts = .ok compiled →
      ∀ template, .template template ∈ compiled → onTemplate template
  | [], compiled, hmentions, h, template, hmem => by
      simp only [compileParts, Except.ok.injEq] at h
      simp [← h] at hmem
  | part :: parts, compiled, hmentions, h, template, hmem => by
      simp only [mentionsOfParts, List.mem_append] at hmentions
      obtain ⟨first, others, hfirst, hothers, rfl⟩ := compileParts_cons h
      rcases List.mem_cons.mp hmem with rfl | hmem
      · exact compilePart_template inherited part template
          (fun inner hinner => hmentions inner (.inl hinner)) hfirst
      · exact compileParts_templates inherited parts others
          (fun inner hinner => hmentions inner (.inr hinner)) hothers template hmem

theorem compilePart_template
    (inherited : Inherited settings onExpression onHole onTemplate) :
    ∀ (part : Part) (template : Template),
      (∀ inner, .expression inner ∈ part.mentions → onExpression inner) →
      compilePart settings part = .ok (.template template) → onTemplate template
  | .code text, template, hmentions, h => by
      simp [compilePart] at h
  | .tree tree, template, hmentions, h => by
      obtain ⟨inner, hcompile, heq⟩ := compilePart_tree h
      cases heq
      exact compile_induction inherited tree template hmentions hcompile

theorem writeElement_holes
    (inherited : Inherited settings onExpression onHole onTemplate) :
    ∀ (element : Element) (segments : List Segment),
      (∀ inner, .expression inner ∈ element.mentions → onExpression inner) →
      (writeElement settings element).Gives segments →
      ∀ hole, .hole hole ∈ segments → onHole hole
  | ⟨name, attributes, children, _, _⟩, segments, hmentions, h, hole, hmem => by
      simp only [Element.mentions, List.mem_append] at hmentions
      obtain ⟨named, given, hnamed, hgiven, hshape⟩ := writeElement_gives h
      have hname := writeName_holes inherited name named
        (fun inner hinner => hmentions inner (.inl (.inl hinner))) hnamed hole
      have hattributes := writeAttributes_holes inherited attributes given
        (fun inner hinner => hmentions inner (.inl (.inr hinner))) hgiven hole
      rcases hshape with ⟨inner, hinner, rfl⟩ | ⟨-, rfl⟩
      · have hchildren := writeChildren_holes inherited children inner
          (fun inner hinner => hmentions inner (.inr hinner)) hinner hole
        simp only [List.mem_append, List.mem_singleton, reduceCtorEq, false_or, or_false] at hmem
        rcases hmem with ((hmem | hmem) | hmem) | hmem
        · exact hname hmem
        · exact hattributes hmem
        · exact hchildren hmem
        · exact hname hmem
      · simp only [List.mem_append, List.mem_singleton, reduceCtorEq, false_or, or_false] at hmem
        exact hmem.elim hname hattributes

theorem writeName_holes
    (inherited : Inherited settings onExpression onHole onTemplate) :
    ∀ (name : TagName) (segments : List Segment),
      (∀ inner, .expression inner ∈ name.mentions → onExpression inner) →
      (writeName settings name).Gives segments →
      ∀ hole, .hole hole ∈ segments → onHole hole
  | .static name, segments, hmentions, h, hole, hmem => by
      rw [writeName, Written.gives_text] at h
      simp [h] at hmem
  | .dynamic expression, segments, hmentions, h, hole, hmem => by
      rw [writeName, Written.gives_hole] at h
      obtain ⟨value, hvalue, rfl⟩ := h
      simp only [List.mem_singleton, Segment.hole.injEq] at hmem
      subst hmem
      exact compileExpression_holes inherited expression hole hmentions hvalue
  | .blank, segments, hmentions, h, hole, hmem => by
      rw [writeName] at h
      exact absurd h Written.not_gives_fail

theorem writeAttributes_holes
    (inherited : Inherited settings onExpression onHole onTemplate) :
    ∀ (attributes : List Attribute) (segments : List Segment),
      (∀ inner, .expression inner ∈ mentionsOfAttributes attributes → onExpression inner) →
      (writeAttributes settings attributes).Gives segments →
      ∀ hole, .hole hole ∈ segments → onHole hole
  | [], segments, hmentions, h, hole, hmem => by
      rw [writeAttributes, Written.gives_empty] at h
      simp [h] at hmem
  | first :: attributes, segments, hmentions, h, hole, hmem => by
      simp only [mentionsOfAttributes, List.mem_append] at hmentions
      rw [writeAttributes, Written.gives_append] at h
      obtain ⟨before, after, hbefore, hafter, rfl⟩ := h
      rcases List.mem_append.mp hmem with hmem | hmem
      · exact writeAttribute_holes inherited first before
          (fun inner hinner => hmentions inner (.inl hinner)) hbefore hole hmem
      · exact writeAttributes_holes inherited attributes after
          (fun inner hinner => hmentions inner (.inr hinner)) hafter hole hmem

theorem writeAttribute_holes
    (inherited : Inherited settings onExpression onHole onTemplate) :
    ∀ (item : Attribute) (segments : List Segment),
      (∀ inner, .expression inner ∈ item.mentions → onExpression inner) →
      (writeAttribute settings item).Gives segments →
      ∀ hole, .hole hole ∈ segments → onHole hole
  | .flag name, segments, hmentions, h, hole, hmem => by
      simp only [writeAttribute, Written.gives_append, Written.gives_text] at h
      grind
  | .string name value quote, segments, hmentions, h, hole, hmem => by
      have hliteral := inherited.literal
      simp only [writeAttribute, writeString, Written.gives_append, Written.gives_text] at h
      obtain ⟨before, after, rfl, hafter, rfl⟩ := h
      split at hafter
      · simp only [Written.gives_append, Written.gives_text] at hafter
        grind
      · simp only [Written.gives_append, Written.gives_text, Written.gives_hole] at hafter
        grind
      · exact absurd hafter Written.not_gives_fail
  | .expression name none position, segments, hmentions, h, hole, hmem => by
      simp only [writeAttribute, Written.gives_append, Written.not_gives_fail,
        false_and, and_false, exists_false] at h
  | .expression name (some expression) position, segments, hmentions, h, hole, hmem => by
      have hexpression := compileExpression_holes inherited expression
      simp only [Attribute.mentions, List.mem_cons] at hmentions
      simp only [writeAttribute, Written.gives_append, Written.gives_text,
        Written.gives_hole] at h
      grind
  | .spread expression, segments, hmentions, h, hole, hmem => by
      have hexpression := compileExpression_holes inherited expression
      simp only [Attribute.mentions] at hmentions
      simp only [writeAttribute, Written.gives_append, Written.gives_text,
        Written.gives_hole] at h
      grind
  | .blank, segments, hmentions, h, hole, hmem => by
      simp only [writeAttribute, Written.gives_append, Written.not_gives_fail,
        false_and, and_false, exists_false] at h

theorem writeChildren_holes
    (inherited : Inherited settings onExpression onHole onTemplate) :
    ∀ (children : List Child) (segments : List Segment),
      (∀ inner, .expression inner ∈ mentionsOfChildren children → onExpression inner) →
      (writeChildren settings children).Gives segments →
      ∀ hole, .hole hole ∈ segments → onHole hole
  | [], segments, hmentions, h, hole, hmem => by
      rw [writeChildren, Written.gives_empty] at h
      simp [h] at hmem
  | child :: children, segments, hmentions, h, hole, hmem => by
      simp only [mentionsOfChildren, List.mem_append] at hmentions
      rw [writeChildren, Written.gives_append] at h
      obtain ⟨before, after, hbefore, hafter, rfl⟩ := h
      rcases List.mem_append.mp hmem with hmem | hmem
      · exact writeChild_holes inherited child before
          (fun inner hinner => hmentions inner (.inl hinner)) hbefore hole hmem
      · exact writeChildren_holes inherited children after
          (fun inner hinner => hmentions inner (.inr hinner)) hafter hole hmem

theorem writeChild_holes
    (inherited : Inherited settings onExpression onHole onTemplate) :
    ∀ (child : Child) (segments : List Segment),
      (∀ inner, .expression inner ∈ child.mentions → onExpression inner) →
      (writeChild settings child).Gives segments →
      ∀ hole, .hole hole ∈ segments → onHole hole
  | .text raw, segments, hmentions, h, hole, hmem => by
      have hliteral := inherited.literal
      rw [writeChild, writeText] at h
      split at h
      · rw [Written.gives_text] at h
        simp [h] at hmem
      · rw [Written.gives_hole] at h
        grind
      · exact absurd h Written.not_gives_fail
  | .expression expression, segments, hmentions, h, hole, hmem => by
      rw [writeChild, Written.gives_hole] at h
      obtain ⟨value, hvalue, rfl⟩ := h
      simp only [List.mem_singleton, Segment.hole.injEq] at hmem
      subst hmem
      exact compileExpression_holes inherited expression hole hmentions hvalue
  | .element element, segments, hmentions, h, hole, hmem => by
      rw [writeChild] at h
      exact writeElement_holes inherited element segments hmentions h hole hmem
  | .empty, segments, hmentions, h, hole, hmem => by
      rw [writeChild, Written.gives_empty] at h
      simp [h] at hmem
  | .spread ⟨_, position⟩, segments, hmentions, h, hole, hmem => by
      rw [writeChild] at h
      exact absurd h Written.not_gives_fail
  | .blank, segments, hmentions, h, hole, hmem => by
      rw [writeChild] at h
      exact absurd h Written.not_gives_fail

end

end Induction

/-! ## Compiled templates can be printed -/

theorem holesComplete_iff {holes : List Hole} :
    holesComplete holes = true ↔ ∀ hole ∈ holes, hole.isComplete = true := by
  induction holes with
  | nil => simp [holesComplete]
  | cons hole holes ih => simp [holesComplete, ih]

theorem partsComplete_iff {parts : List SourcePart} :
    partsComplete parts = true ↔
      ∀ template, .template template ∈ parts → template.isComplete = true := by
  induction parts with
  | nil => simp [partsComplete]
  | cons part parts ih =>
      cases part with
      | code text => simp [partsComplete, SourcePart.isComplete, ih]
      | template template =>
          simp only [partsComplete, SourcePart.isComplete, Bool.and_eq_true, ih,
            List.mem_cons, SourcePart.template.injEq]
          constructor
          · rintro ⟨hfirst, hothers⟩ other (rfl | hother)
            · exact hfirst
            · exact hothers other hother
          · intro h
            exact ⟨h template (.inl rfl), fun other hother => h other (.inr hother)⟩

theorem inherited_isComplete (settings : Settings) :
    Inherited settings (fun _ => True) (fun hole => hole.isComplete = true)
      (fun template => template.isComplete = true) where
  literal text := by simp [Hole.isComplete]
  nested template h := by simpa [Hole.isComplete] using h
  source expression parts _ _ htemplates := by
    simpa [Hole.isComplete] using partsComplete_iff.mpr htemplates
  built segments hholes := by
    rw [Template.ofSegments_eq, Template.isComplete, holesComplete_iff]
    intro hole hmem
    exact hholes hole (mem_holesOf.mp hmem)

/-- No hole of a compiled template is blank, so it has a printed text. -/
theorem print?_of_compile {settings : Settings} {tree : Tree} {template : Template}
    (h : compile settings tree = .ok template) : template.print? = some template.render := by
  have hcomplete := compile_induction (inherited_isComplete settings) tree template
    (fun _ _ => trivial) h
  simp [Template.print?, hcomplete]

theorem ofSegments_of_compile {settings : Settings} {tree : Tree} {template : Template}
    (h : compile settings tree = .ok template) :
    ∃ segments, template = .ofSegments settings.tag segments := by
  cases tree with
  | element element =>
      rw [compile] at h
      obtain ⟨segments, -, rfl⟩ := Written.toTemplate_eq_ok.mp h
      exact ⟨segments, rfl⟩
  | fragment children position =>
      rw [compile] at h
      obtain ⟨segments, -, rfl⟩ := Written.toTemplate_eq_ok.mp h
      exact ⟨segments, rfl⟩
  | blank => simp [compile] at h

theorem tag_of_compile {settings : Settings} {tree : Tree} {template : Template}
    (h : compile settings tree = .ok template) : template.tag = settings.tag := by
  obtain ⟨segments, rfl⟩ := ofSegments_of_compile h
  rw [Template.ofSegments_eq]

end TaggedMarkup
