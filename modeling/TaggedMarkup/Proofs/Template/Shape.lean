import TaggedMarkup.Proofs.Element.Faults
import TaggedMarkup.Proofs.Element.Items

/-!
# Shape and tag

Every template that compiling builds, at any depth, has one more quasi than
holes and the tag of the settings, so the check of its shape never fails.  And
the tag is all that the settings put into a template besides its closing tags:
with another tag a tree is compiled to the same template, with that tag at
every depth.
-/

namespace TaggedMarkup

/-! ## Another tag -/

mutual

/-- The template with another tag, at every depth. -/
def Template.retag (tag : Text) : Template → Template
  | ⟨_, quasis, holes⟩ => ⟨tag, quasis, retagHoles tag holes⟩

def Hole.retag (tag : Text) : Hole → Hole
  | .source parts => .source (retagParts tag parts)
  | .literal text => .literal text
  | .template inner => .template (inner.retag tag)
  | .blank => .blank

def SourcePart.retag (tag : Text) : SourcePart → SourcePart
  | .code text => .code text
  | .template inner => .template (inner.retag tag)

def retagHoles (tag : Text) : List Hole → List Hole
  | [] => []
  | hole :: holes => hole.retag tag :: retagHoles tag holes

def retagParts (tag : Text) : List SourcePart → List SourcePart
  | [] => []
  | part :: parts => part.retag tag :: retagParts tag parts

end

def Segment.retag (tag : Text) : Segment → Segment
  | .text literal => .text literal
  | .hole inner => .hole (inner.retag tag)

theorem textsOf_retag (tag pending : Text) (segments : List Segment) :
    textsOf pending (segments.map (Segment.retag tag)) = textsOf pending segments := by
  induction segments generalizing pending with
  | nil => rfl
  | cons segment segments ih =>
      cases segment with
      | text text => exact ih (pending ++ text)
      | hole hole => exact congrArg (pending :: ·) (ih [])

theorem holesOf_retag (tag : Text) (segments : List Segment) :
    holesOf (segments.map (Segment.retag tag)) = retagHoles tag (holesOf segments) := by
  induction segments with
  | nil => simp [holesOf, retagHoles]
  | cons segment segments ih =>
      cases segment with
      | text text => exact ih
      | hole hole =>
          rw [List.map_cons, Segment.retag, holesOf, holesOf, retagHoles, ih]

theorem ofSegments_retag (tag former : Text) (segments : List Segment) :
    Template.ofSegments tag (segments.map (Segment.retag tag)) =
      (Template.ofSegments former segments).retag tag := by
  rw [Template.ofSegments_eq, Template.ofSegments_eq, Template.retag, textsOf_retag,
    holesOf_retag]

theorem Hole.ofParts_retag (tag : Text) (parts : List SourcePart) :
    (Hole.ofParts parts).retag tag = Hole.ofParts (retagParts tag parts) := by
  match parts with
  | [] => simp [Hole.ofParts, Hole.retag, retagParts]
  | [.code text] => simp [Hole.ofParts, Hole.retag, retagParts, SourcePart.retag]
  | [.template inner] => simp [Hole.ofParts, Hole.retag, retagParts, SourcePart.retag]
  | first :: second :: parts => simp [Hole.ofParts, Hole.retag, retagParts]

namespace Written

def retag (tag : Text) (written : Written) : Written :=
  ⟨written.segments.map (Segment.retag tag), written.failure⟩

@[simp] theorem retag_empty (tag : Text) : retag tag {} = {} := rfl

@[simp] theorem retag_text (tag value : Text) : (text value).retag tag = text value := rfl

@[simp] theorem retag_fail (tag : Text) (failure : Failure) :
    (fail failure).retag tag = fail failure := rfl

@[simp] theorem retag_append (tag : Text) (first second : Written) :
    (first ++ second).retag tag = first.retag tag ++ second.retag tag := by
  obtain ⟨segments, failure⟩ := first
  change (append _ _).retag tag = append _ _
  cases failure with
  | some failure => rfl
  | none => simp [append, retag]

@[simp] theorem retag_hole (tag : Text) (result : Except Failure Hole) :
    (hole result).retag tag = hole (result.map (Hole.retag tag)) := by
  cases result <;> rfl

theorem toTemplate_retag (tag former : Text) (written : Written) :
    (written.retag tag).toTemplate tag = (written.toTemplate former).map (Template.retag tag) := by
  obtain ⟨segments, failure⟩ := written
  cases failure with
  | some failure => rfl
  | none =>
      rw [retag, toTemplate_complete, toTemplate_complete, ofSegments_retag tag former]
      rfl

end Written

theorem writeText_retag (tag raw : Text) : (writeText raw).retag tag = writeText raw := by
  unfold writeText
  split
  · rfl
  · rw [Written.retag_hole, Except.map, Hole.retag]
  · rfl

theorem writeString_retag (tag name value : Text) :
    (writeString name value).retag tag = writeString name value := by
  unfold writeString
  split
  · rfl
  · rw [Written.retag_append, Written.retag_hole, Except.map, Hole.retag]
    rfl
  · rfl

section Compiling

variable {settings other : Settings}

mutual

theorem compile_retag (h : other.explicitClose = settings.explicitClose) :
    ∀ tree : Tree,
      compile other tree = (compile settings tree).map (Template.retag other.tag)
  | .element element => by
    rw [compile, compile, writeElement_retag h element]
    exact Written.toTemplate_retag other.tag settings.tag _
  | .fragment children position => by
    rw [compile, compile, writeChildren_retag h children]
    exact Written.toTemplate_retag other.tag settings.tag _
  | .blank => by
    rw [compile, compile]
    rfl

theorem compileExpression_retag (h : other.explicitClose = settings.explicitClose) :
    ∀ expression : Expression,
      compileExpression other expression =
        (compileExpression settings expression).map (Hole.retag other.tag)
  | ⟨parts, position⟩ => by
    rw [compileExpression_eq, compileExpression_eq, compileParts_retag h parts]
    cases compileParts settings parts with
    | error failure => rfl
    | ok compiled => exact congrArg Except.ok (Hole.ofParts_retag other.tag compiled).symm

theorem compileParts_retag (h : other.explicitClose = settings.explicitClose) :
    ∀ parts : List Part,
      compileParts other parts = (compileParts settings parts).map (retagParts other.tag)
  | [] => by
    simp [compileParts, Except.map, retagParts]
  | part :: parts => by
    rw [compileParts, compileParts, compilePart_retag h part, compileParts_retag h parts]
    cases compilePart settings part with
    | error failure => rfl
    | ok first =>
        cases compileParts settings parts with
        | error failure => rfl
        | ok compiled =>
            change Except.ok _ = Except.ok _
            rw [retagParts]

theorem compilePart_retag (h : other.explicitClose = settings.explicitClose) :
    ∀ part : Part,
      compilePart other part = (compilePart settings part).map (SourcePart.retag other.tag)
  | .code text => by
    simp [compilePart, Except.map, SourcePart.retag]
  | .tree tree => by
    rw [compilePart, compilePart, compile_retag h tree]
    cases compile settings tree with
    | error failure => rfl
    | ok template =>
        change Except.ok _ = Except.ok _
        rw [SourcePart.retag]

theorem writeElement_retag (h : other.explicitClose = settings.explicitClose) :
    ∀ element : Element,
      writeElement other element = (writeElement settings element).retag other.tag
  | ⟨name, attributes, children, explicitClose, position⟩ => by
    rw [writeElement, writeElement, h, writeName_retag h name, writeAttributes_retag h attributes,
      writeChildren_retag h children]
    split
    · simp only [Written.retag_append, Written.retag_text]
    · simp only [Written.retag_append, Written.retag_text]

theorem writeName_retag (h : other.explicitClose = settings.explicitClose) :
    ∀ name : TagName,
      writeName other name = (writeName settings name).retag other.tag
  | .static name => by
    rw [writeName, writeName, Written.retag_text]
  | .dynamic expression => by
    rw [writeName, writeName, Written.retag_hole, compileExpression_retag h expression]
  | .blank => by
    rw [writeName, writeName, Written.retag_fail]

theorem writeAttributes_retag (h : other.explicitClose = settings.explicitClose) :
    ∀ attributes : List Attribute,
      writeAttributes other attributes = (writeAttributes settings attributes).retag other.tag
  | [] => by
    rw [writeAttributes, writeAttributes, Written.retag_empty]
  | first :: attributes => by
    rw [writeAttributes, writeAttributes, Written.retag_append, writeAttribute_retag h first,
      writeAttributes_retag h attributes]

theorem writeAttribute_retag (h : other.explicitClose = settings.explicitClose) :
    ∀ item : Attribute,
      writeAttribute other item = (writeAttribute settings item).retag other.tag
  | .flag name => by
    simp only [writeAttribute, Written.retag_append, Written.retag_text]
  | .string name value quote => by
    simp only [writeAttribute, Written.retag_append, Written.retag_text, writeString_retag]
  | .expression name none position => by
    simp only [writeAttribute, Written.retag_append, Written.retag_text, Written.retag_fail]
  | .expression name (some value) position => by
    simp only [writeAttribute, Written.retag_append, Written.retag_text, Written.retag_hole,
      compileExpression_retag h value]
  | .spread value => by
    simp only [writeAttribute, Written.retag_append, Written.retag_text, Written.retag_hole,
      compileExpression_retag h value]
  | .blank => by
    simp only [writeAttribute, Written.retag_append, Written.retag_text, Written.retag_fail]

theorem writeChildren_retag (h : other.explicitClose = settings.explicitClose) :
    ∀ children : List Child,
      writeChildren other children = (writeChildren settings children).retag other.tag
  | [] => by
    rw [writeChildren, writeChildren, Written.retag_empty]
  | child :: children => by
    rw [writeChildren, writeChildren, Written.retag_append, writeChild_retag h child,
      writeChildren_retag h children]

theorem writeChild_retag (h : other.explicitClose = settings.explicitClose) :
    ∀ child : Child,
      writeChild other child = (writeChild settings child).retag other.tag
  | .text raw => by
    rw [writeChild, writeChild, writeText_retag]
  | .expression expression => by
    rw [writeChild, writeChild, Written.retag_hole, compileExpression_retag h expression]
  | .element element => by
    rw [writeChild, writeChild, writeElement_retag h element]
  | .empty => by
    rw [writeChild, writeChild, Written.retag_empty]
  | .spread ⟨parts, position⟩ => by
    rw [writeChild, writeChild, Written.retag_fail]
  | .blank => by
    rw [writeChild, writeChild, Written.retag_fail]

end

end Compiling

/-! ## Shape -/

theorem shape_of_compile {settings : Settings} {tree : Tree} {template : Template}
    (h : compile settings tree = .ok template) :
    template.quasis.length = template.holes.length + 1 := by
  obtain ⟨segments, rfl⟩ := ofSegments_of_compile h
  rw [Template.ofSegments_eq]
  simp only [List.length_map]
  exact length_textsOf [] segments

theorem compile_not_miscounted (settings : Settings) (tree : Tree) (error : Template.Miscount) :
    compile settings tree ≠ .error (.miscounted error) := by
  intro h
  have hfirst := failureOf_compile settings tree
  rw [h] at hfirst
  obtain ⟨site, -, hsite⟩ := List.exists_of_findSome?_eq_some hfirst.symm
  cases site with
  | text raw =>
      simp only [Site.failure?, decodeFailure] at hsite
      split at hsite <;> cases hsite
  | value raw =>
      simp only [Site.failure?, decodeFailure] at hsite
      split at hsite <;> cases hsite
  | emptyAttribute name position => cases hsite
  | spreadChild position => cases hsite
  | blank place => cases hsite

/-- All templates inside a compiled one have one more quasi than holes and the tag of the settings;
no template is refused for its shape; and another tag in the settings comes to that tag in all of
them, or to the same failure. -/
theorem templates_shaped_and_tagged (settings : Settings) (tree : Tree) :
    (∀ template, compile settings tree = .ok template →
      ∀ inner, Template.Inside inner template →
        inner.quasis.length = inner.holes.length + 1 ∧ inner.tag = settings.tag) ∧
    (∀ error, compile settings tree ≠ .error (.miscounted error)) ∧
    ∀ other : Settings, other.explicitClose = settings.explicitClose →
      compile other tree = (compile settings tree).map (Template.retag other.tag) := by
  refine ⟨?_, compile_not_miscounted settings tree, ?_⟩
  · intro template hcompile inner hinside
    obtain ⟨source, -, hsource⟩ := (inside_compile_iff hcompile).mp hinside
    exact ⟨shape_of_compile hsource, tag_of_compile hsource⟩
  · intro other hclose
    exact compile_retag hclose tree

theorem onOneLine_retagged :
    compile { tag := ['h'] } onOneLine = .ok ⟨['h'],
      [['<'], [' ', 'a', '=', '"', 'x', '"', '>'], ['<', '/'], ['>']],
      [.source [.code ['P']], .template ⟨['h'], [['x', ' ', 'y']], []⟩,
        .source [.code ['P']]]⟩ := by
  have hcompile : compile {} onOneLine = .ok ⟨['h', 't', 'm', 'l'],
      [['<'], [' ', 'a', '=', '"', 'x', '"', '>'], ['<', '/'], ['>']],
      [.source [.code ['P']], .template ⟨['h', 't', 'm', 'l'], [['x', ' ', 'y']], []⟩,
        .source [.code ['P']]]⟩ := by cbv
  have hretag := (templates_shaped_and_tagged {} onOneLine).2.2 { tag := ['h'] } rfl
  rw [hcompile] at hretag
  rw [hretag]
  cbv

end TaggedMarkup
