import TaggedMarkup.Proofs.Element.Essential
import TaggedMarkup.Proofs.Text.References

/-!
# Where compiling stops

Compiling goes through a tree from its beginning to its end.  `Tree.sites` lists
in that order whatever it may stop at.  It stops at the first site that fails,
and the settings have no part in this.  In a tree of known nodes without
references that are too long, the sites that fail are the spreads among
children and the attributes between whose braces there is nothing.
-/

namespace TaggedMarkup

/-! ## Sites -/

/-- Something in a tree that compiling may stop at. -/
inductive Site where
  /-- Text between tags, as written in the program. -/
  | text (raw : Text)
  /-- The value of an attribute that is a string, as written. -/
  | value (raw : Text)
  | emptyAttribute (name : Text) (position : Position)
  | spreadChild (position : Position)
  | blank (place : BlankPlace)

mutual

/-- The sites of a tree, at any depth: those of a name before those of the attributes, and these
before those of the children. -/
def Tree.sites : Tree → List Site
  | .element root => root.sites
  | .fragment children _ => sitesOfChildren children
  | .blank => [.blank .tree]

def Element.sites : Element → List Site
  | ⟨name, attributes, children, _, _⟩ =>
    name.sites ++ sitesOfAttributes attributes ++ sitesOfChildren children

def TagName.sites : TagName → List Site
  | .static _ => []
  | .dynamic expression => expression.sites
  | .blank => [.blank .name]

def Attribute.sites : Attribute → List Site
  | .flag _ => []
  | .string _ value _ => [.value value]
  | .expression name none position => [.emptyAttribute name position]
  | .expression _ (some value) _ => value.sites
  | .spread value => value.sites
  | .blank => [.blank .attr]

def Child.sites : Child → List Site
  | .text raw => [.text raw]
  | .expression expression => expression.sites
  | .element element => element.sites
  | .empty => []
  | .spread ⟨parts, position⟩ => .spreadChild position :: sitesOfParts parts
  | .blank => [.blank .child]

def Expression.sites : Expression → List Site
  | ⟨parts, _⟩ => sitesOfParts parts

def Part.sites : Part → List Site
  | .code _ => []
  | .tree tree => tree.sites

def sitesOfAttributes : List Attribute → List Site
  | [] => []
  | first :: attributes => first.sites ++ sitesOfAttributes attributes

def sitesOfChildren : List Child → List Site
  | [] => []
  | child :: children => child.sites ++ sitesOfChildren children

def sitesOfParts : List Part → List Site
  | [] => []
  | part :: parts => part.sites ++ sitesOfParts parts

end

/-! ## Failures -/

def failureOf {α : Type} : Except Failure α → Option Failure
  | .ok _ => none
  | .error failure => some failure

def decodeFailure (raw : Text) : Option Failure :=
  match Reference.decode raw with
  | .ok _ => none
  | .error error => some (.tooManyDigits error)

/-- Why compiling stops at a site, if it does. -/
def Site.failure? : Site → Option Failure
  | .text raw => decodeFailure (collapse raw)
  | .value raw => decodeFailure raw
  | .emptyAttribute name position => some (.reported (.located (.emptyAttribute name) [] position))
  | .spreadChild position => some (.reported (.located .spreadChild [] position))
  | .blank place => some (.blank place)

/-- The first failure among some sites. -/
def firstFailure (sites : List Site) : Option Failure :=
  sites.findSome? Site.failure?

@[simp] theorem firstFailure_nil : firstFailure [] = none := rfl

@[simp] theorem firstFailure_singleton (site : Site) : firstFailure [site] = site.failure? := by
  cases h : site.failure? <;> simp [firstFailure, h]

@[simp] theorem firstFailure_append (first second : List Site) :
    firstFailure (first ++ second) = (firstFailure first).or (firstFailure second) :=
  List.findSome?_append

theorem failureOf_map {α β : Type} (f : α → β) (result : Except Failure α) :
    failureOf (result.map f) = failureOf result := by
  cases result <;> rfl

namespace Written

@[simp] theorem failure_text (value : Text) : (text value).failure = none := rfl

@[simp] theorem failure_append (first second : Written) :
    (first ++ second).failure = first.failure.or second.failure := by
  obtain ⟨segments, failure⟩ := first
  change (append _ _).failure = _
  cases failure <;> rfl

@[simp] theorem failure_fail (failure : Failure) : (fail failure).failure = some failure := rfl

@[simp] theorem failure_hole (result : Except Failure Hole) :
    (hole result).failure = failureOf result := by
  cases result <;> rfl

theorem failureOf_toTemplate (tag : Text) (written : Written) :
    failureOf (written.toTemplate tag) = written.failure := by
  obtain ⟨segments, failure⟩ := written
  cases failure with
  | none => rw [toTemplate_complete]; rfl
  | some failure => rfl

end Written

/-! ## The first site that fails -/

theorem writeText_failure (raw : Text) :
    (writeText raw).failure = decodeFailure (collapse raw) := by
  unfold writeText encodeText decodeFailure
  cases Reference.decode (collapse raw) with
  | error error => rfl
  | ok text =>
      simp only [bind, Except.bind, pure, Except.pure]
      split
      · rfl
      · rfl
      · rename_i h
        cases h

theorem writeString_failure (name value : Text) :
    (writeString name value).failure = decodeFailure value := by
  unfold writeString encodeValue decodeFailure
  cases Reference.decode value with
  | error error => rfl
  | ok text =>
      simp only [bind, Except.bind, pure, Except.pure]
      split
      · rfl
      · rfl
      · rename_i h
        cases h

/-- Children without content cannot fail. -/
theorem firstFailure_of_no_content {children : List Child}
    (h : children.any Child.hasContent = false) :
    firstFailure (sitesOfChildren children) = none := by
  induction children with
  | nil => rfl
  | cons child children ih =>
      simp only [List.any_cons, Bool.or_eq_false_iff] at h
      rw [sitesOfChildren, firstFailure_append, ih h.2, Option.or_none]
      cases child with
      | text raw =>
          have hblank : collapse raw = [] := by simpa [Child.hasContent] using h.1
          simp [Child.sites, Site.failure?, decodeFailure, hblank, Reference.decode]
      | empty => simp [Child.sites]
      | expression expression => simp [Child.hasContent] at h
      | element element => simp [Child.hasContent] at h
      | spread expression => simp [Child.hasContent] at h
      | blank => simp [Child.hasContent] at h

mutual

theorem failureOf_compile (settings : Settings) :
    ∀ tree : Tree, failureOf (compile settings tree) = firstFailure tree.sites
  | .element element => by
    rw [compile, Written.failureOf_toTemplate, Tree.sites]
    exact writeElement_failure settings element
  | .fragment children position => by
    rw [compile, Written.failureOf_toTemplate, Tree.sites]
    exact writeChildren_failure settings children
  | .blank => by
    rw [compile, Tree.sites]
    rfl

theorem failureOf_compileExpression (settings : Settings) : ∀ expression : Expression,
    failureOf (compileExpression settings expression) = firstFailure expression.sites
  | ⟨parts, position⟩ => by
    rw [compileExpression_eq, failureOf_map, Expression.sites]
    exact failureOf_compileParts settings parts

theorem failureOf_compileParts (settings : Settings) : ∀ parts : List Part,
    failureOf (compileParts settings parts) = firstFailure (sitesOfParts parts)
  | [] => by
    rw [compileParts, sitesOfParts]
    rfl
  | part :: parts => by
    have hpart := failureOf_compilePart settings part
    have hparts := failureOf_compileParts settings parts
    rw [compileParts, sitesOfParts, firstFailure_append, ← hpart, ← hparts]
    cases compilePart settings part with
    | error failure => rfl
    | ok first => cases compileParts settings parts <;> rfl

theorem failureOf_compilePart (settings : Settings) : ∀ part : Part,
    failureOf (compilePart settings part) = firstFailure part.sites
  | .code text => by
    rw [compilePart, Part.sites]
    rfl
  | .tree tree => by
    rw [compilePart, failureOf_map, Part.sites]
    exact failureOf_compile settings tree

theorem writeElement_failure (settings : Settings) : ∀ element : Element,
    (writeElement settings element).failure = firstFailure element.sites
  | ⟨name, attributes, children, explicitClose, position⟩ => by
    have hname := writeName_failure settings name
    have hattributes := writeAttributes_failure settings attributes
    have hchildren := writeChildren_failure settings children
    rw [writeElement, Element.sites]
    split
    · -- the name is written a second time only if it could be written the first time
      simp only [Written.failure_append, Written.failure_text, firstFailure_append, hname,
        hattributes, hchildren, Option.none_or, Option.or_none]
      cases firstFailure name.sites <;> simp
    · rename_i hcontent
      simp only [Bool.or_eq_true, not_or, Bool.not_eq_true] at hcontent
      simp only [Written.failure_append, Written.failure_text, firstFailure_append, hname,
        hattributes, firstFailure_of_no_content hcontent.1, Option.none_or, Option.or_none]

theorem writeName_failure (settings : Settings) : ∀ name : TagName,
    (writeName settings name).failure = firstFailure name.sites
  | .static name => by
    rw [writeName, TagName.sites]
    rfl
  | .dynamic expression => by
    rw [writeName, Written.failure_hole, TagName.sites]
    exact failureOf_compileExpression settings expression
  | .blank => by
    rw [writeName, TagName.sites]
    rfl

theorem writeAttributes_failure (settings : Settings) : ∀ attributes : List Attribute,
    (writeAttributes settings attributes).failure = firstFailure (sitesOfAttributes attributes)
  | [] => by
    rw [writeAttributes, sitesOfAttributes]
    rfl
  | first :: attributes => by
    rw [writeAttributes, Written.failure_append, sitesOfAttributes, firstFailure_append,
      writeAttribute_failure settings first, writeAttributes_failure settings attributes]

theorem writeAttribute_failure (settings : Settings) : ∀ item : Attribute,
    (writeAttribute settings item).failure = firstFailure item.sites
  | .flag name => by
    rw [writeAttribute, Attribute.sites]
    rfl
  | .string name value quote => by
    rw [writeAttribute, Attribute.sites, Written.failure_append, writeString_failure]
    simp [Site.failure?]
  | .expression name none position => by
    rw [writeAttribute, Attribute.sites]
    rfl
  | .expression name (some value) position => by
    have hvalue := failureOf_compileExpression settings value
    rw [writeAttribute, Attribute.sites]
    simpa using hvalue
  | .spread value => by
    have hvalue := failureOf_compileExpression settings value
    rw [writeAttribute, Attribute.sites]
    simpa using hvalue
  | .blank => by
    rw [writeAttribute, Attribute.sites]
    rfl

theorem writeChildren_failure (settings : Settings) : ∀ children : List Child,
    (writeChildren settings children).failure = firstFailure (sitesOfChildren children)
  | [] => by
    rw [writeChildren, sitesOfChildren]
    rfl
  | child :: children => by
    rw [writeChildren, Written.failure_append, sitesOfChildren, firstFailure_append,
      writeChild_failure settings child, writeChildren_failure settings children]

theorem writeChild_failure (settings : Settings) : ∀ child : Child,
    (writeChild settings child).failure = firstFailure child.sites
  | .text raw => by
    rw [writeChild, Child.sites, writeText_failure, firstFailure_singleton, Site.failure?]
  | .expression expression => by
    rw [writeChild, Written.failure_hole, Child.sites]
    exact failureOf_compileExpression settings expression
  | .element element => by
    rw [writeChild, Child.sites]
    exact writeElement_failure settings element
  | .empty => by
    rw [writeChild, Child.sites]
    rfl
  | .spread ⟨parts, position⟩ => by
    rw [writeChild, Child.sites]
    rfl
  | .blank => by
    rw [writeChild, Child.sites]
    rfl

end

/-! ## Faults -/

/-- Something that no template can represent, and its place. -/
structure Fault where
  problem : Problem
  position : Position

def Site.fault? : Site → Option Fault
  | .emptyAttribute name position => some ⟨.emptyAttribute name, position⟩
  | .spreadChild position => some ⟨.spreadChild, position⟩
  | _ => none

/-- The attributes without a value and the spreads among children, in the order of the tree. -/
def Tree.faults (tree : Tree) : List Fault :=
  tree.sites.filterMap Site.fault?

def Fault.failure (fault : Fault) : Failure :=
  .reported (.located fault.problem [] fault.position)

theorem decodeFailure_of_short {raw : Text} (h : ¬ Reference.HoldsLong raw) :
    decodeFailure raw = none := by
  unfold decodeFailure
  cases hdecode : Reference.decode raw with
  | ok text => rfl
  | error error => exact absurd (Reference.holdsLong_of_decode_error hdecode) h

theorem firstFailure_eq_head? {sites : List Site}
    (hknown : ∀ place, .blank place ∉ sites)
    (hshort : ∀ raw, .text raw ∈ sites ∨ .value raw ∈ sites → ¬ Reference.HoldsLong raw) :
    firstFailure sites = (sites.filterMap Site.fault?).head?.map Fault.failure := by
  induction sites with
  | nil => rfl
  | cons site sites ih =>
      have hrest := ih (fun place hmem => hknown place (List.mem_cons_of_mem site hmem))
        fun raw hmem =>
          hshort raw (hmem.imp (List.mem_cons_of_mem site) (List.mem_cons_of_mem site))
      have hskip : site.failure? = none → site.fault? = none →
          firstFailure (site :: sites) =
            ((site :: sites).filterMap Site.fault?).head?.map Fault.failure := by
        intro hfailure hfault
        rw [firstFailure, List.findSome?_cons_of_isNone (by simp [hfailure]),
          List.filterMap_cons_none hfault]
        exact hrest
      cases site with
      | emptyAttribute name position => rfl
      | spreadChild position => rfl
      | blank place => exact absurd List.mem_cons_self (hknown place)
      | text raw =>
          have hraw := hshort raw (.inl List.mem_cons_self)
          refine hskip (decodeFailure_of_short fun hlong => hraw ?_) rfl
          exact Reference.holdsLong_of_collapse hlong
      | value raw => exact hskip (decodeFailure_of_short (hshort raw (.inr List.mem_cons_self))) rfl

theorem category_of_mem_faults {tree : Tree} {fault : Fault} (h : fault ∈ tree.faults) :
    fault.problem.category = .unsupported := by
  obtain ⟨site, -, hfault⟩ := List.mem_filterMap.mp h
  cases site with
  | emptyAttribute name position =>
      cases hfault
      rfl
  | spreadChild position =>
      cases hfault
      rfl
  | text raw => cases hfault
  | value raw => cases hfault
  | blank place => cases hfault

theorem failureOf_eq_some {α : Type} {result : Except Failure α} {failure : Failure} :
    failureOf result = some failure ↔ result = .error failure := by
  cases result <;> simp [failureOf]

/-- A tree of known nodes, without references that are too long, cannot be compiled exactly if it
has an attribute without a value or a spread among children, at any depth; the first of these is
what is reported. -/
theorem compile_fails_at_first_fault (settings : Settings) (tree : Tree)
    (hknown : ∀ place, .blank place ∉ tree.sites)
    (hshort : ∀ raw, .text raw ∈ tree.sites ∨ .value raw ∈ tree.sites →
      ¬ Reference.HoldsLong raw) :
    ((∃ failure, compile settings tree = .error failure) ↔ tree.faults ≠ []) ∧
    ∀ fault others, tree.faults = fault :: others →
      fault.problem.category = .unsupported ∧
      compile settings tree = .error (.reported (.located fault.problem [] fault.position)) := by
  have hfirst : failureOf (compile settings tree) = tree.faults.head?.map Fault.failure := by
    rw [failureOf_compile]
    exact firstFailure_eq_head? hknown hshort
  have hfails : ∀ fault others, tree.faults = fault :: others →
      compile settings tree = .error fault.failure := by
    intro fault others hfaults
    rw [hfaults] at hfirst
    exact failureOf_eq_some.mp hfirst
  refine ⟨⟨?_, ?_⟩, ?_⟩
  · rintro ⟨failure, hfailure⟩ hnone
    rw [hnone, hfailure] at hfirst
    cases hfirst
  · intro hsome
    obtain ⟨fault, others, hfaults⟩ := List.exists_cons_of_ne_nil hsome
    exact ⟨fault.failure, hfails fault others hfaults⟩
  · intro fault others hfaults
    have hmem : fault ∈ tree.faults := by simp [hfaults]
    exact ⟨category_of_mem_faults hmem, hfails fault others hfaults⟩

/-- An element with two faults, the first in a tree inside the value of an attribute. -/
def twiceFaulty : Tree := .element {
  name := .dynamic ⟨[.code ['P']], ⟨1, 2⟩⟩
  attributes := [
    .string ['a'] ['x'] '"',
    .expression ['b'] (some ⟨[.code ['y', '|'], .tree (.fragment
      [.text ['z'], .spread ⟨[.code ['q']], ⟨2, 7⟩⟩] ⟨2, 3⟩)], ⟨2, 1⟩⟩) ⟨1, 9⟩,
    .expression ['c'] none ⟨3, 1⟩] }

theorem twiceFaulty_fails :
    (∃ failure, compile {} twiceFaulty = .error failure) ∧
    compile {} twiceFaulty = .error (.reported (.located .spreadChild [] ⟨2, 7⟩)) := by
  have hsites : twiceFaulty.sites = [.value ['x'], .text ['z'], .spreadChild ⟨2, 7⟩,
      .emptyAttribute ['c'] ⟨3, 1⟩] := by cbv
  have hfaults : twiceFaulty.faults =
      [⟨.spreadChild, ⟨2, 7⟩⟩, ⟨.emptyAttribute ['c'], ⟨3, 1⟩⟩] := by
    rw [Tree.faults, hsites]
    rfl
  have hone : ∀ c, ¬ Reference.HoldsLong [c] := by
    rintro c ⟨digits, -, hlong, hwithin⟩
    have hlength := hwithin.length_le
    simp [Reference.written] at hlength
  obtain ⟨hiff, hfirst⟩ := compile_fails_at_first_fault {} twiceFaulty (by simp [hsites])
    (by
      rw [hsites]
      rintro raw (hmem | hmem)
      · simp only [List.mem_cons, reduceCtorEq, Site.text.injEq, List.not_mem_nil, or_false,
          false_or] at hmem
        rw [hmem]
        exact hone 'z'
      · simp only [List.mem_cons, reduceCtorEq, Site.value.injEq, List.not_mem_nil,
          or_false] at hmem
        rw [hmem]
        exact hone 'x')
  exact ⟨hiff.mpr (by simp [hfaults]), (hfirst _ _ hfaults).2⟩

end TaggedMarkup
