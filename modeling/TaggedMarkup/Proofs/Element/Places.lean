import TaggedMarkup.Proofs.Element.Essential

/-!
# Places of problems

Compiling a tree may come upon two problems, an attribute without a value and a
spread among children, and reports them at a place that was noted in the tree.
A tree is placed if all the places it may report are of some kind.
-/

namespace TaggedMarkup

/-! ## Results -/

/-- What is true of a result, and of the failure if there is none. -/
def Settles {α : Type} (stops : Failure → Prop) (holds : α → Prop) : Except Failure α → Prop
  | .ok value => holds value
  | .error failure => stops failure

section Settles

variable {α β : Type} {stops : Failure → Prop} {holds : α → Prop} {further : β → Prop}

theorem Settles.bind {first : Except Failure α} {next : α → Except Failure β}
    (h : Settles stops holds first)
    (hnext : ∀ value, holds value → Settles stops further (next value)) :
    Settles stops further (first >>= next) := by
  cases first with
  | ok value => exact hnext value h
  | error failure => exact h

theorem Settles.eq_ok {first : Except Failure α} (h : Settles stops holds first) :
    Settles stops (fun value => first = .ok value) first := by
  cases first with
  | ok value => rfl
  | error failure => exact h

theorem Settles.imp {fails : Failure → Prop} {first : Except Failure α}
    (h : Settles fails holds first) (hstops : ∀ failure, fails failure → stops failure) :
    Settles stops holds first := by
  cases first with
  | ok value => exact h
  | error failure => exact hstops failure h

theorem Settles.map {first : Except Failure α} (f : α → β) (h : Settles stops holds first)
    (hnext : ∀ value, holds value → further (f value)) : Settles stops further (first.map f) := by
  cases first with
  | ok value => exact hnext value h
  | error failure => exact h

end Settles

def Failure.isReported : Failure → Bool
  | .reported _ => true
  | _ => false

/-- If the failure is a diagnostic, it is about something no template can represent, and names this
file and such a place. -/
inductive Failure.At (file : Text) (place : Position → Prop) : Failure → Prop
  | located {problem : Problem} {position : Position} (hproblem : problem.category = .unsupported)
      (hplace : place position) : Failure.At file place (.reported (.located problem file position))
  | silent {failure : Failure} (h : failure.isReported = false) : Failure.At file place failure

/-! ## Placed trees -/

mutual

/-- All places that compiling the tree may report are of some kind. -/
def Tree.Placed (place : Position → Prop) : Tree → Prop
  | .element root => root.Placed place
  | .fragment children _ => ChildrenPlaced place children
  | .blank => True

def Element.Placed (place : Position → Prop) : Element → Prop
  | ⟨name, attributes, children, _, _⟩ =>
    name.Placed place ∧ AttributesPlaced place attributes ∧ ChildrenPlaced place children

def TagName.Placed (place : Position → Prop) : TagName → Prop
  | .static _ => True
  | .dynamic expression => expression.Placed place
  | .blank => True

def Attribute.Placed (place : Position → Prop) : Attribute → Prop
  | .flag _ => True
  | .string _ _ _ => True
  | .expression _ none position => place position
  | .expression _ (some value) _ => value.Placed place
  | .spread value => value.Placed place
  | .blank => True

/-- A spread among children is reported itself, not what is in it. -/
def Child.Placed (place : Position → Prop) : Child → Prop
  | .text _ => True
  | .expression expression => expression.Placed place
  | .element element => element.Placed place
  | .empty => True
  | .spread expression => place expression.position
  | .blank => True

def Expression.Placed (place : Position → Prop) : Expression → Prop
  | ⟨parts, _⟩ => PartsPlaced place parts

def Part.Placed (place : Position → Prop) : Part → Prop
  | .code _ => True
  | .tree tree => tree.Placed place

def AttributesPlaced (place : Position → Prop) : List Attribute → Prop
  | [] => True
  | first :: attributes => first.Placed place ∧ AttributesPlaced place attributes

def ChildrenPlaced (place : Position → Prop) : List Child → Prop
  | [] => True
  | child :: children => child.Placed place ∧ ChildrenPlaced place children

def PartsPlaced (place : Position → Prop) : List Part → Prop
  | [] => True
  | part :: parts => part.Placed place ∧ PartsPlaced place parts

end

/-! ## Compiling placed trees -/

section Compiling

variable {place : Position → Prop}

/-- Writing stops, if it does, at a place of some kind. -/
def Written.Stops (written : Written) (place : Position → Prop) : Prop :=
  ∀ failure ∈ written.failure, failure.At [] place

theorem Written.Stops.append {first second : Written} (hfirst : first.Stops place)
    (hsecond : second.Stops place) : (first ++ second).Stops place := by
  obtain ⟨segments, failure⟩ := first
  change (Written.append _ _).Stops place
  cases failure with
  | some failure => exact hfirst
  | none => exact hsecond

theorem Written.stops_of_none {written : Written} (h : written.failure = none) :
    written.Stops place := by
  intro failure hmem
  rw [h] at hmem
  cases hmem

theorem Written.stops_fail {failure : Failure} (h : failure.At [] place) :
    (Written.fail failure).Stops place := by
  intro other hother
  cases hother
  exact h

theorem Written.stops_hole {result : Except Failure Hole}
    (h : Settles (Failure.At [] place) (fun _ => True) result) :
    (Written.hole result).Stops place := by
  cases result with
  | ok hole => exact stops_of_none rfl
  | error failure => exact stops_fail h

theorem Written.Stops.toTemplate {written : Written} (tag : Text) (h : written.Stops place) :
    Settles (Failure.At [] place) (fun _ => True) (written.toTemplate tag) := by
  obtain ⟨segments, failure⟩ := written
  cases failure with
  | none =>
      rw [toTemplate_complete]
      trivial
  | some failure => exact h failure rfl

theorem writeText_stops (raw : Text) : (writeText raw).Stops place := by
  unfold writeText
  split
  · exact Written.stops_of_none rfl
  · exact Written.stops_of_none rfl
  · exact Written.stops_fail (.silent rfl)

theorem writeString_stops (name value : Text) : (writeString name value).Stops place := by
  unfold writeString
  split
  · exact Written.stops_of_none rfl
  · exact Written.stops_of_none rfl
  · exact Written.stops_fail (.silent rfl)

mutual

theorem compile_settles (settings : Settings) : ∀ tree : Tree, tree.Placed place →
    Settles (Failure.At [] place) (fun _ => True) (compile settings tree)
  | .element element, h => by
    rw [compile]
    exact (writeElement_stops settings element (by rwa [Tree.Placed] at h)).toTemplate settings.tag
  | .fragment children position, h => by
    rw [compile]
    exact (writeChildren_stops settings children (by rwa [Tree.Placed] at h)).toTemplate
      settings.tag
  | .blank, _ => by
    rw [compile]
    exact .silent rfl

theorem compileExpression_settles (settings : Settings) : ∀ expression : Expression,
    expression.Placed place →
    Settles (Failure.At [] place) (fun _ => True) (compileExpression settings expression)
  | ⟨parts, position⟩, h => by
    rw [compileExpression_eq]
    exact (compileParts_settles settings parts (by rwa [Expression.Placed] at h)).map _
      fun _ _ => trivial

theorem compileParts_settles (settings : Settings) : ∀ parts : List Part,
    PartsPlaced place parts →
    Settles (Failure.At [] place) (fun _ => True) (compileParts settings parts)
  | [], _ => by
    rw [compileParts]
    trivial
  | part :: parts, h => by
    rw [PartsPlaced] at h
    rw [compileParts]
    refine (compilePart_settles settings part h.1).bind fun compiled _ => ?_
    exact (compileParts_settles settings parts h.2).bind fun others _ => trivial

theorem compilePart_settles (settings : Settings) : ∀ part : Part, part.Placed place →
    Settles (Failure.At [] place) (fun _ => True) (compilePart settings part)
  | .code text, _ => by
    rw [compilePart]
    trivial
  | .tree tree, h => by
    rw [compilePart]
    exact (compile_settles settings tree (by rwa [Part.Placed] at h)).map _ fun _ _ => trivial

theorem writeElement_stops (settings : Settings) : ∀ element : Element, element.Placed place →
    (writeElement settings element).Stops place
  | ⟨name, attributes, children, explicitClose, position⟩, h => by
    rw [Element.Placed] at h
    have hmark : ∀ text, (Written.text text).Stops place := fun _ => Written.stops_of_none rfl
    have hname := writeName_stops settings name h.1
    have hopening := ((hmark ['<']).append hname).append
      (writeAttributes_stops settings attributes h.2.1)
    rw [writeElement]
    split
    · have hinside := (hopening.append (hmark ['>'])).append
        (writeChildren_stops settings children h.2.2)
      exact ((hinside.append (hmark ['<', '/'])).append hname).append (hmark ['>'])
    · exact hopening.append (hmark ['/', '>'])

theorem writeName_stops (settings : Settings) : ∀ name : TagName, name.Placed place →
    (writeName settings name).Stops place
  | .static name, _ => by
    rw [writeName]
    exact Written.stops_of_none rfl
  | .dynamic expression, h => by
    rw [writeName]
    exact Written.stops_hole
      (compileExpression_settles settings expression (by rwa [TagName.Placed] at h))
  | .blank, _ => by
    rw [writeName]
    exact Written.stops_fail (.silent rfl)

theorem writeAttributes_stops (settings : Settings) : ∀ attributes : List Attribute,
    AttributesPlaced place attributes → (writeAttributes settings attributes).Stops place
  | [], _ => by
    rw [writeAttributes]
    exact Written.stops_of_none rfl
  | first :: attributes, h => by
    rw [AttributesPlaced] at h
    rw [writeAttributes]
    exact (writeAttribute_stops settings first h.1).append
      (writeAttributes_stops settings attributes h.2)

theorem writeAttribute_stops (settings : Settings) : ∀ item : Attribute, item.Placed place →
    (writeAttribute settings item).Stops place
  | .flag name, _ => by
    rw [writeAttribute]
    exact Written.stops_of_none rfl
  | .string name value quote, _ => by
    rw [writeAttribute]
    exact (Written.stops_of_none rfl).append (writeString_stops name value)
  | .expression name none position, h => by
    rw [Attribute.Placed] at h
    rw [writeAttribute]
    exact (Written.stops_of_none rfl).append (Written.stops_fail (.located rfl h))
  | .expression name (some value) position, h => by
    rw [Attribute.Placed] at h
    rw [writeAttribute]
    exact (Written.stops_of_none rfl).append
      (Written.stops_hole (compileExpression_settles settings value h))
  | .spread value, h => by
    rw [Attribute.Placed] at h
    rw [writeAttribute]
    exact (Written.stops_of_none rfl).append
      (Written.stops_hole (compileExpression_settles settings value h))
  | .blank, _ => by
    rw [writeAttribute]
    exact (Written.stops_of_none rfl).append (Written.stops_fail (.silent rfl))

theorem writeChildren_stops (settings : Settings) : ∀ children : List Child,
    ChildrenPlaced place children → (writeChildren settings children).Stops place
  | [], _ => by
    rw [writeChildren]
    exact Written.stops_of_none rfl
  | child :: children, h => by
    rw [ChildrenPlaced] at h
    rw [writeChildren]
    exact (writeChild_stops settings child h.1).append
      (writeChildren_stops settings children h.2)

theorem writeChild_stops (settings : Settings) : ∀ child : Child, child.Placed place →
    (writeChild settings child).Stops place
  | .text raw, _ => by
    rw [writeChild]
    exact writeText_stops raw
  | .expression expression, h => by
    rw [Child.Placed] at h
    rw [writeChild]
    exact Written.stops_hole (compileExpression_settles settings expression h)
  | .element element, h => by
    rw [Child.Placed] at h
    rw [writeChild]
    exact writeElement_stops settings element h
  | .empty, _ => by
    rw [writeChild]
    exact Written.stops_of_none rfl
  | .spread ⟨parts, position⟩, h => by
    rw [Child.Placed] at h
    rw [writeChild]
    exact Written.stops_fail (.located rfl h)
  | .blank, _ => by
    rw [writeChild]
    exact Written.stops_fail (.silent rfl)

end

end Compiling

end TaggedMarkup
