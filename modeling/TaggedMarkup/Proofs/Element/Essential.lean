import TaggedMarkup.Proofs.Element.Compiled
import TaggedMarkup.Proofs.Element.TextRun

/-!
# What compiling depends on

Much of a tree has no part in its template: where things stand, how values were
quoted, whether an element was closed explicitly, comments, and how texts were
broken over lines.  `Tree.essential` takes all of it away, at every depth.
Compiling a tree comes to the same as compiling what is left of it, and where
it fails, it fails alike; only the place that is reported may be another.
-/

namespace TaggedMarkup

/-! ## The essence of a tree -/

mutual

/-- A tree without places, quotes, explicit closing and comments, and with its texts collapsed. -/
def Tree.essential : Tree → Tree
  | .element root => .element root.essential
  | .fragment children _ => .fragment (essentialChildren children) {}
  | .blank => .blank

def Element.essential : Element → Element
  | ⟨name, attributes, children, _, _⟩ =>
    ⟨name.essential, essentialAttributes attributes, essentialChildren children, false, {}⟩

def TagName.essential : TagName → TagName
  | .static name => .static name
  | .dynamic expression => .dynamic expression.essential
  | .blank => .blank

def Attribute.essential : Attribute → Attribute
  | .flag name => .flag name
  | .string name value _ => .string name value '"'
  | .expression name none _ => .expression name none {}
  | .expression name (some value) _ => .expression name (some value.essential) {}
  | .spread value => .spread value.essential
  | .blank => .blank

/-- Nothing is left of a comment, or of a text that only wraps lines. -/
def Child.essential : Child → List Child
  | .text raw => if collapse raw = [] then [] else [.text (collapse raw)]
  | .expression expression => [.expression expression.essential]
  | .element element => [.element element.essential]
  | .empty => []
  | .spread expression => [.spread expression.essential]
  | .blank => [.blank]

def Expression.essential : Expression → Expression
  | ⟨parts, _⟩ => ⟨essentialParts parts, {}⟩

def Part.essential : Part → Part
  | .code text => .code text
  | .tree tree => .tree tree.essential

def essentialAttributes : List Attribute → List Attribute
  | [] => []
  | first :: attributes => first.essential :: essentialAttributes attributes

def essentialChildren : List Child → List Child
  | [] => []
  | child :: children => child.essential ++ essentialChildren children

def essentialParts : List Part → List Part
  | [] => []
  | part :: parts => part.essential :: essentialParts parts

end

theorem any_hasContent_essential (child : Child) :
    child.essential.any Child.hasContent = child.hasContent := by
  cases child with
  | text raw =>
      by_cases hblank : collapse raw = []
      · simp [Child.essential, Child.hasContent, hblank]
      · simp [Child.essential, Child.hasContent, hblank]
  | _ => simp [Child.essential, Child.hasContent]

theorem any_hasContent_essentialChildren (children : List Child) :
    (essentialChildren children).any Child.hasContent = children.any Child.hasContent := by
  induction children with
  | nil => simp [essentialChildren]
  | cons child children ih =>
      rw [essentialChildren, List.any_append, any_hasContent_essential, ih, List.any_cons]

/-! ## Results that agree -/

/-- What a failure says, apart from the file and the place. -/
def Failure.bare : Failure → Failure
  | .reported diagnostic => .reported { problem := diagnostic.problem }
  | failure => failure

/-- Two results are related, or both are failures that say the same. -/
inductive Agree {α β : Type} (related : α → β → Prop) :
    Except Failure α → Except Failure β → Prop
  | ok {first : α} {second : β} (h : related first second) :
      Agree related (.ok first) (.ok second)
  | error {first second : Failure} (h : first.bare = second.bare) :
      Agree related (.error first) (.error second)

/-- Two results are the same as far as a view of them goes. -/
abbrev AgreeOn {α β : Type} (view : α → β) : Except Failure α → Except Failure α → Prop :=
  Agree fun first second => view first = view second

section Agree

variable {α β γ δ : Type} {related : α → β → Prop} {further : γ → δ → Prop}

theorem Agree.refl (result : Except Failure α) : Agree Eq result result := by
  cases result with
  | ok value => exact .ok rfl
  | error failure => exact .error rfl

theorem Agree.symm {first second : Except Failure α} (h : Agree Eq first second) :
    Agree Eq second first := by
  cases h with
  | ok h => exact .ok h.symm
  | error h => exact .error h.symm

theorem Agree.trans {first second third : Except Failure α} (hfirst : Agree Eq first second)
    (hsecond : Agree Eq second third) : Agree Eq first third := by
  cases hfirst with
  | ok hfirst =>
      cases hsecond with
      | ok hsecond => exact .ok (hfirst.trans hsecond)
  | error hfirst =>
      cases hsecond with
      | error hsecond => exact .error (hfirst.trans hsecond)

theorem Agree.bind {first : Except Failure α} {second : Except Failure β}
    {f : α → Except Failure γ} {g : β → Except Failure δ} (h : Agree related first second)
    (hnext : ∀ a b, related a b → Agree further (f a) (g b)) :
    Agree further (first >>= f) (second >>= g) := by
  cases h with
  | ok h => exact hnext _ _ h
  | error h => exact .error h

theorem Agree.andThen {first second : Except Failure α} {f : α → Except Failure γ}
    {g : α → Except Failure δ} (h : Agree Eq first second)
    (hnext : ∀ value, Agree further (f value) (g value)) :
    Agree further (first >>= f) (second >>= g) := by
  apply h.bind
  rintro value _ rfl
  exact hnext value

theorem Agree.same_or_fail {first second : Except Failure α} (h : Agree Eq first second) :
    (∃ value, first = .ok value ∧ second = .ok value) ∨
    ∃ failure other, first = .error failure ∧ second = .error other ∧
      failure.bare = other.bare := by
  cases h with
  | ok h => exact .inl ⟨_, rfl, congrArg _ h.symm⟩
  | error h => exact .inr ⟨_, _, rfl, rfl, h⟩

theorem Agree.map {first second : Except Failure α} (f : α → β) (h : Agree Eq first second) :
    Agree Eq (first.map f) (second.map f) := by
  cases h with
  | ok h => exact .ok (congrArg f h)
  | error h => exact .error h

end Agree

/-! ## Writing that comes to the same -/

def Segment.isVisible : Segment → Bool
  | .text literal => !literal.isEmpty
  | .hole _ => true

theorem textsOf_filter_isVisible (pending : Text) (segments : List Segment) :
    textsOf pending (segments.filter Segment.isVisible) = textsOf pending segments := by
  induction segments generalizing pending with
  | nil => rfl
  | cons segment segments ih =>
      cases segment with
      | text text =>
          cases text with
          | nil => simpa [Segment.isVisible, textsOf] using ih pending
          | cons c text => simpa [Segment.isVisible, textsOf] using ih (pending ++ c :: text)
      | hole hole => rw [List.filter_cons_of_pos rfl, textsOf, textsOf, ih]

theorem holesOf_filter_isVisible (segments : List Segment) :
    holesOf (segments.filter Segment.isVisible) = holesOf segments := by
  induction segments with
  | nil => rfl
  | cons segment segments ih =>
      cases segment with
      | text text => cases text <;> simpa [Segment.isVisible, holesOf] using ih
      | hole hole => rw [List.filter_cons_of_pos rfl, holesOf, holesOf, ih]

theorem ofSegments_filter_isVisible (tag : Text) (segments : List Segment) :
    Template.ofSegments tag (segments.filter Segment.isVisible) =
      Template.ofSegments tag segments := by
  rw [Template.ofSegments_eq, Template.ofSegments_eq, textsOf_filter_isVisible,
    holesOf_filter_isVisible]

namespace Written

/-- The same was written, apart from texts of no characters, up to failures that say the same. -/
structure Alike (first second : Written) : Prop where
  segments : first.segments.filter Segment.isVisible = second.segments.filter Segment.isVisible
  failure : first.failure.map Failure.bare = second.failure.map Failure.bare

theorem Alike.refl (written : Written) : written.Alike written :=
  ⟨rfl, rfl⟩

theorem Alike.append {first second before after : Written} (hfirst : first.Alike before)
    (hsecond : second.Alike after) : (first ++ second).Alike (before ++ after) := by
  obtain ⟨segments, failure⟩ := first
  obtain ⟨others, stopped⟩ := before
  obtain ⟨hsegments, hfailure⟩ := hfirst
  change Written.Alike (Written.append _ _) (Written.append _ _)
  cases failure with
  | some failure =>
      cases stopped with
      | none => simp at hfailure
      | some stopped => exact ⟨hsegments, hfailure⟩
  | none =>
      cases stopped with
      | some stopped => simp at hfailure
      | none =>
          refine ⟨?_, hsecond.failure⟩
          simp only [Written.append, List.filter_append] at hsegments ⊢
          rw [hsegments, hsecond.segments]

theorem Alike.hole {first second : Except Failure Hole} (h : Agree Eq first second) :
    (Written.hole first).Alike (Written.hole second) := by
  cases h with
  | ok h =>
      subst h
      exact .refl _
  | error h => exact ⟨rfl, congrArg some h⟩

theorem Alike.toTemplate {first second : Written} (tag : Text) (h : first.Alike second) :
    Agree Eq (first.toTemplate tag) (second.toTemplate tag) := by
  obtain ⟨segments, failure⟩ := first
  obtain ⟨others, stopped⟩ := second
  obtain ⟨hsegments, hfailure⟩ := h
  cases failure with
  | some failure =>
      cases stopped with
      | none => simp at hfailure
      | some stopped => exact .error (Option.some.inj hfailure)
  | none =>
      cases stopped with
      | some stopped => simp at hfailure
      | none =>
          rw [toTemplate_complete, toTemplate_complete]
          refine .ok ?_
          rw [← ofSegments_filter_isVisible, ← ofSegments_filter_isVisible tag others]
          exact congrArg _ hsegments

end Written

/-! ## Compiling what is essential -/

/-- The hole that source with templates in it makes: a template if there is nothing else. -/
def Hole.ofParts : List SourcePart → Hole
  | [.template inner] => .template inner
  | parts => .source parts

theorem compileExpression_eq (settings : Settings) (parts : List Part) (position : Position) :
    compileExpression settings ⟨parts, position⟩ =
      (compileParts settings parts).map Hole.ofParts := by
  unfold compileExpression
  split
  · rename_i tree place heq
    cases heq
    simp only [compileParts, compilePart]
    cases compile settings tree <;> rfl
  · rename_i others place hshape heq
    cases heq
    cases hparts : compileParts settings parts with
    | error failure => rfl
    | ok compiled =>
        -- a lone template comes from a lone tree
        refine congrArg Except.ok ?_
        unfold Hole.ofParts
        split
        · rename_i inner
          cases parts with
          | nil => simp [compileParts] at hparts
          | cons part parts =>
              obtain ⟨first, rest, hpart, hrest, heq⟩ := compileParts_cons hparts
              cases heq
              cases part with
              | code text => simp [compilePart] at hpart
              | tree tree =>
                  cases parts with
                  | nil => exact absurd rfl (hshape tree)
                  | cons next parts =>
                      obtain ⟨_, _, _, _, heq⟩ := compileParts_cons hrest
                      cases heq
        · rfl

theorem writeText_collapse (raw : Text) : writeText (collapse raw) = writeText raw := by
  rw [writeText, writeText, collapse_collapse]

theorem writeText_of_blank {raw : Text} (h : collapse raw = []) : (writeText raw).Alike {} := by
  have hnothing : encodeText [] = .ok (.plain []) := by
    simp [encodeText, Reference.decode, bind, Except.bind, pure, Except.pure]
  rw [writeText, h, hnothing]
  exact ⟨rfl, rfl⟩

mutual

theorem compile_essential (settings : Settings) :
    ∀ tree : Tree, Agree Eq (compile settings tree) (compile settings tree.essential)
  | .element element => by
    rw [Tree.essential, compile, compile]
    exact (writeElement_essential settings element).toTemplate settings.tag
  | .fragment children position => by
    rw [Tree.essential, compile, compile]
    exact (writeChildren_essential settings children).toTemplate settings.tag
  | .blank => by
    rw [Tree.essential]
    exact .refl _

theorem compileExpression_essential (settings : Settings) :
    ∀ expression : Expression, Agree Eq (compileExpression settings expression)
      (compileExpression settings expression.essential)
  | ⟨parts, position⟩ => by
    rw [Expression.essential, compileExpression_eq, compileExpression_eq]
    exact (compileParts_essential settings parts).map Hole.ofParts

theorem compileParts_essential (settings : Settings) :
    ∀ parts : List Part, Agree Eq (compileParts settings parts)
      (compileParts settings (essentialParts parts))
  | [] => by
    rw [essentialParts]
    exact .refl _
  | part :: parts => by
    rw [essentialParts, compileParts, compileParts]
    refine (compilePart_essential settings part).bind ?_
    rintro compiled _ rfl
    refine (compileParts_essential settings parts).bind ?_
    rintro others _ rfl
    exact .ok rfl

theorem compilePart_essential (settings : Settings) :
    ∀ part : Part, Agree Eq (compilePart settings part) (compilePart settings part.essential)
  | .code text => by
    rw [Part.essential]
    exact .refl _
  | .tree tree => by
    rw [Part.essential, compilePart, compilePart]
    exact (compile_essential settings tree).map SourcePart.template

theorem writeElement_essential (settings : Settings) :
    ∀ element : Element,
      (writeElement settings element).Alike (writeElement settings element.essential)
  | ⟨name, attributes, children, explicitClose, position⟩ => by
    have hname := writeName_essential settings name
    have hopening := ((Written.Alike.refl (.text ['<'])).append hname).append
      (writeAttributes_essential settings attributes)
    rw [Element.essential, writeElement, writeElement, any_hasContent_essentialChildren]
    split
    · have hinside := (hopening.append (.refl (.text ['>']))).append
        (writeChildren_essential settings children)
      exact ((hinside.append (.refl (.text ['<', '/']))).append hname).append (.refl (.text ['>']))
    · exact hopening.append (.refl (.text ['/', '>']))

theorem writeName_essential (settings : Settings) :
    ∀ name : TagName, (writeName settings name).Alike (writeName settings name.essential)
  | .static name => by
    rw [TagName.essential]
    exact .refl _
  | .dynamic expression => by
    rw [TagName.essential, writeName, writeName]
    exact .hole (compileExpression_essential settings expression)
  | .blank => by
    rw [TagName.essential]
    exact .refl _

theorem writeAttributes_essential (settings : Settings) :
    ∀ attributes : List Attribute, (writeAttributes settings attributes).Alike
      (writeAttributes settings (essentialAttributes attributes))
  | [] => by
    rw [essentialAttributes]
    exact .refl _
  | first :: attributes => by
    rw [essentialAttributes, writeAttributes, writeAttributes]
    exact (writeAttribute_essential settings first).append
      (writeAttributes_essential settings attributes)

theorem writeAttribute_essential (settings : Settings) :
    ∀ item : Attribute,
      (writeAttribute settings item).Alike (writeAttribute settings item.essential)
  | .flag name => by
    rw [Attribute.essential]
    exact .refl _
  | .string name value quote => by
    rw [Attribute.essential, writeAttribute, writeAttribute]
    exact .refl _
  | .expression name none position => by
    rw [Attribute.essential, writeAttribute, writeAttribute]
    exact (Written.Alike.refl _).append ⟨rfl, rfl⟩
  | .expression name (some value) position => by
    rw [Attribute.essential, writeAttribute, writeAttribute]
    exact (Written.Alike.refl _).append (.hole (compileExpression_essential settings value))
  | .spread value => by
    rw [Attribute.essential, writeAttribute, writeAttribute]
    exact (Written.Alike.refl _).append (.hole (compileExpression_essential settings value))
  | .blank => by
    rw [Attribute.essential]
    exact .refl _

theorem writeChildren_essential (settings : Settings) :
    ∀ children : List Child, (writeChildren settings children).Alike
      (writeChildren settings (essentialChildren children))
  | [] => by
    rw [essentialChildren]
    exact .refl _
  | child :: children => by
    rw [essentialChildren, writeChildren]
    exact writeChild_essential settings child (writeChildren_essential settings children)

-- a child may leave nothing behind, so it is taken together with what follows it
theorem writeChild_essential (settings : Settings) :
    ∀ (child : Child) {following : Written} {children : List Child},
      following.Alike (writeChildren settings children) →
      (writeChild settings child ++ following).Alike
        (writeChildren settings (child.essential ++ children))
  | .text raw, following, children, h => by
    rw [Child.essential, writeChild]
    split
    case isTrue hblank => exact (writeText_of_blank hblank).append h
    case isFalse =>
      rw [List.singleton_append, writeChildren, writeChild, writeText_collapse]
      exact (Written.Alike.refl _).append h
  | .expression expression, following, children, h => by
    rw [Child.essential, writeChild, List.singleton_append, writeChildren, writeChild]
    exact (Written.Alike.hole (compileExpression_essential settings expression)).append h
  | .element element, following, children, h => by
    rw [Child.essential, writeChild, List.singleton_append, writeChildren, writeChild]
    exact (writeElement_essential settings element).append h
  | .empty, following, children, h => by
    rw [Child.essential, writeChild]
    exact h
  | .spread ⟨parts, position⟩, following, children, h => by
    rw [Child.essential, Expression.essential, writeChild, List.singleton_append, writeChildren,
      writeChild]
    exact ⟨rfl, rfl⟩
  | .blank, following, children, h => by
    rw [Child.essential, writeChild, List.singleton_append, writeChildren, writeChild]
    exact (Written.Alike.refl _).append h

end

theorem agree_of_essential_eq {first second : Tree} (settings : Settings)
    (h : first.essential = second.essential) :
    Agree Eq (compile settings first) (compile settings second) := by
  have hsecond := compile_essential settings second
  rw [← h] at hsecond
  exact (compile_essential settings first).trans hsecond.symm

/-- Trees that differ in nothing essential are compiled to the same template, or fail alike. -/
theorem compile_of_same_essence (settings : Settings) (first second : Tree)
    (h : first.essential = second.essential) :
    (∃ template, compile settings first = .ok template ∧
      compile settings second = .ok template) ∨
    ∃ failure other, compile settings first = .error failure ∧
      compile settings second = .error other ∧ failure.bare = other.bare :=
  (agree_of_essential_eq settings h).same_or_fail

/-- An element broken over lines, whose only expression is a tree that is broken over lines too. -/
def spreadOut : Tree := .element {
  name := .dynamic ⟨[.code ['P']], ⟨1, 2⟩⟩
  attributes := [.string ['a'] ['x'] '\'']
  children := [
    .text ['\n', ' ', ' '],
    .expression ⟨[.tree (.fragment [.text ['x', ' ', '\n', '\t', 'y'], .empty] ⟨2, 4⟩)], ⟨2, 3⟩⟩,
    .empty,
    .text ['\n']]
  explicitClose := true
  position := ⟨1, 1⟩ }

/-- The same element on one line. -/
def onOneLine : Tree := .element {
  name := .dynamic ⟨[.code ['P']], ⟨7, 2⟩⟩
  attributes := [.string ['a'] ['x'] '"']
  children := [.expression ⟨[.tree (.fragment [.text ['x', ' ', 'y']] ⟨7, 10⟩)], ⟨7, 9⟩⟩]
  position := ⟨7, 1⟩ }

/-- An element with a child that no template can represent. -/
def spreadInside (children : List Child) (position : Position) : Tree :=
  .element { name := .static ['p'], children := children ++ [.spread ⟨[.code ['q']], position⟩] }

theorem spreadOut_onOneLine :
    (spreadOut.essential = onOneLine.essential ∧
      ∃ template, compile {} spreadOut = .ok template ∧ compile {} onOneLine = .ok template) ∧
    (spreadInside [.text ['\n']] ⟨2, 5⟩).essential = (spreadInside [] ⟨1, 5⟩).essential ∧
      ∃ failure other, compile {} (spreadInside [.text ['\n']] ⟨2, 5⟩) = .error failure ∧
        compile {} (spreadInside [] ⟨1, 5⟩) = .error other ∧ failure.bare = other.bare := by
  have hessence : spreadOut.essential = onOneLine.essential := rfl
  have hessence' : (spreadInside [.text ['\n']] ⟨2, 5⟩).essential =
      (spreadInside [] ⟨1, 5⟩).essential := rfl
  have hcompiles : ∃ template, compile {} onOneLine = .ok template :=
    ⟨_, by with_unfolding_all rfl⟩
  have hfails : ∃ failure, compile {} (spreadInside [] ⟨1, 5⟩) = .error failure := ⟨_, rfl⟩
  refine ⟨⟨hessence, ?_⟩, hessence', ?_⟩
  · rcases compile_of_same_essence {} _ _ hessence with h | ⟨_, other, -, h, -⟩
    · exact h
    · obtain ⟨template, htemplate⟩ := hcompiles
      rw [htemplate] at h
      cases h
  · rcases compile_of_same_essence {} _ _ hessence' with ⟨_, -, h⟩ | h
    · obtain ⟨failure, hfailure⟩ := hfails
      rw [hfailure] at h
      cases h
    · exact h

end TaggedMarkup
