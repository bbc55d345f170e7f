import TaggedMarkup.Proofs.Element.Compiled

/-!
# Templates side by side

Children written one after the other give the templates of the two parts side
by side.  Only at the seam do the parts meet: the last text of the one and the
first text of the other become one text, which is escaped as a whole, so the
quasi there need not be the two quasis joined.  A child that is an element adds
what it is compiled to by itself.
-/

namespace TaggedMarkup

namespace Template

/-- One template is two others side by side: before they are escaped, the last text of the first
goes on in the first text of the second. -/
structure Joined (first second whole : Template) : Prop where
  tag : whole.tag = first.tag
  holes : whole.holes = first.holes ++ second.holes
  -- there is only one choice of these texts, as no two are escaped alike
  quasis : ∃ before last next after,
    first.quasis = (before ++ [last]).map escape ∧
    second.quasis = (next :: after).map escape ∧
    whole.quasis = (before ++ (last ++ next) :: after).map escape

/-- What compiling two things side by side comes to: the first failure, or both templates joined. -/
def Follows (first second whole : Except Failure Template) : Prop :=
  match first, second with
  | .error failure, _ => whole = .error failure
  | .ok _, .error failure => whole = .error failure
  | .ok left, .ok right => ∃ template, whole = .ok template ∧ Joined left right template

theorem joined_ofSegments (tag : Text) (first second : List Segment) :
    Joined (ofSegments tag first) (ofSegments tag second) (ofSegments tag (first ++ second)) := by
  obtain ⟨before, last, hcut⟩ := exists_textsOf_append [] first
  obtain ⟨next, after, hsecond⟩ := exists_textsOf second
  have hfirst : textsOf [] first = before ++ [last] := by
    have := hcut []
    rwa [List.append_nil] at this
  simp only [ofSegments_eq]
  refine ⟨rfl, holesOf_append first second, before, last, next, after, ?_, ?_, ?_⟩
  · rw [hfirst]
  · rw [hsecond, List.nil_append]
  · rw [hcut, hsecond]

end Template

namespace Written

theorem append_assoc (first second third : Written) :
    first ++ second ++ third = first ++ (second ++ third) := by
  obtain ⟨segments, failure⟩ := first
  obtain ⟨others, failure'⟩ := second
  change append (append _ _) _ = append _ (append _ _)
  cases failure with
  | some failure => rfl
  | none =>
      cases failure' with
      | some failure => rfl
      | none => simp [append]

theorem empty_append (written : Written) : {} ++ written = written := by
  rfl

theorem append_empty (written : Written) : written ++ {} = written := by
  obtain ⟨segments, failure⟩ := written
  change append _ _ = _
  cases failure with
  | some failure => rfl
  | none => simp [append]

theorem follows_toTemplate (tag : Text) (first second : Written) :
    Template.Follows (first.toTemplate tag) (second.toTemplate tag)
      ((first ++ second).toTemplate tag) := by
  obtain ⟨segments, failure⟩ := first
  obtain ⟨others, failure'⟩ := second
  change Template.Follows _ _ ((append _ _).toTemplate tag)
  cases failure with
  | some failure => rfl
  | none =>
      rw [toTemplate_complete]
      cases failure' with
      | some failure => rfl
      | none =>
          rw [toTemplate_complete]
          exact ⟨_, toTemplate_complete tag _, Template.joined_ofSegments tag segments others⟩

end Written

theorem writeChildren_append (settings : Settings) (first second : List Child) :
    writeChildren settings (first ++ second) =
      writeChildren settings first ++ writeChildren settings second := by
  induction first with
  | nil => rw [List.nil_append, writeChildren, Written.empty_append]
  | cons child first ih =>
      rw [List.cons_append, writeChildren, writeChildren, ih, Written.append_assoc]

theorem writeChildren_element (settings : Settings) (element : Element) :
    writeChildren settings [.element element] = writeElement settings element := by
  rw [writeChildren, writeChildren, writeChild, Written.append_empty]

/-- Compiling children side by side gives the templates of the two parts side by side, or the first
failure; and between them an element counts as what it is compiled to by itself. -/
theorem compile_children_append (settings : Settings) (first second : List Child)
    (place place' place'' : Position) :
    Template.Follows (compile settings (.fragment first place))
      (compile settings (.fragment second place'))
      (compile settings (.fragment (first ++ second) place'')) ∧
    ∀ element : Element,
      Template.Follows (compile settings (.fragment first place))
        (compile settings (.element element))
        (compile settings (.fragment (first ++ [.element element]) place'')) ∧
      Template.Follows (compile settings (.fragment (first ++ [.element element]) place''))
        (compile settings (.fragment second place'))
        (compile settings (.fragment (first ++ .element element :: second) place'')) := by
  have hfollows : ∀ before after : List Child,
      Template.Follows ((writeChildren settings before).toTemplate settings.tag)
        ((writeChildren settings after).toTemplate settings.tag)
        ((writeChildren settings (before ++ after)).toTemplate settings.tag) := by
    intro before after
    rw [writeChildren_append]
    exact Written.follows_toTemplate settings.tag _ _
  simp only [compile]
  refine ⟨hfollows first second, ?_⟩
  intro element
  constructor
  · rw [← writeChildren_element]
    exact hfollows first [.element element]
  · have := hfollows (first ++ [.element element]) second
    rwa [List.append_assoc] at this

end TaggedMarkup
