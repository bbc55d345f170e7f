import TaggedMarkup.Proofs.Element.Faults
import TaggedMarkup.Proofs.Template.Buffering

/-!
# What an attribute does to a buffer

Attributes are written into one buffer, one after the other, and a failing one
does not keep the next from being written.  An attribute begins with a text
that its value has no part in.  If it can be written, the value follows, as text
or as a hole; if it cannot, the buffer has got no more than a part of that first
text.  The trees in an expression are compiled before its hole is made, so a
failure inside them is a failure like any other.
-/

namespace TaggedMarkup

/-! ## Growing buffers -/

namespace Buffer

/-- A buffer once some text is written, and after it perhaps a hole. -/
def Grows (earlier later : Buffer) (text : Text) : Option Hole → Prop
  | none => later.quasis = earlier.quasis ∧ later.holes = earlier.holes ∧
      later.pending = earlier.pending ++ text
  | some hole => later.quasis = earlier.quasis ++ [escape (earlier.pending ++ text)] ∧
      later.holes = earlier.holes ++ [hole] ∧ later.pending = []

theorem Grows.trans {first second third : Buffer} {text other : Text} {hole : Option Hole}
    (hfirst : first.Grows second text none) (hsecond : second.Grows third other hole) :
    first.Grows third (text ++ other) hole := by
  obtain ⟨hquasis, hholes, hpending⟩ := hfirst
  cases hole with
  | none =>
      obtain ⟨hquasis', hholes', hpending'⟩ := hsecond
      refine ⟨hquasis'.trans hquasis, hholes'.trans hholes, ?_⟩
      rw [hpending', hpending, List.append_assoc]
  | some hole =>
      obtain ⟨hquasis', hholes', hpending'⟩ := hsecond
      refine ⟨?_, ?_, hpending'⟩
      · rw [hquasis', hquasis, hpending, List.append_assoc]
      · rw [hholes', hholes]

/-- The finished quasis and the holes go on as they began, and as many of the one are added as of
the other. -/
def Extends (earlier later : Buffer) (count : Nat) : Prop :=
  ∃ quasis holes, later.quasis = earlier.quasis ++ quasis ∧
    later.holes = earlier.holes ++ holes ∧ quasis.length = holes.length ∧ holes.length ≤ count

theorem Extends.refl (buffer : Buffer) : buffer.Extends buffer 0 :=
  ⟨[], [], by simp, by simp, rfl, Nat.le_refl 0⟩

theorem Extends.trans {first second third : Buffer} {count number : Nat}
    (hfirst : first.Extends second count) (hsecond : second.Extends third number) :
    first.Extends third (count + number) := by
  obtain ⟨quasis, holes, hquasis, hholes, heven, hcount⟩ := hfirst
  obtain ⟨quasis', holes', hquasis', hholes', heven', hnumber⟩ := hsecond
  refine ⟨quasis ++ quasis', holes ++ holes', ?_, ?_, ?_, ?_⟩
  · rw [hquasis', hquasis, List.append_assoc]
  · rw [hholes', hholes, List.append_assoc]
  · rw [List.length_append, List.length_append, heven, heven']
  · rw [List.length_append]
    omega

theorem Grows.extends {earlier later : Buffer} {text : Text} {hole : Option Hole}
    (h : earlier.Grows later text hole) : earlier.Extends later 1 := by
  cases hole with
  | none =>
      obtain ⟨hquasis, hholes, -⟩ := h
      exact ⟨[], [], by simp [hquasis], by simp [hholes], rfl, by simp⟩
  | some hole =>
      obtain ⟨hquasis, hholes, -⟩ := h
      exact ⟨_, _, hquasis, hholes, rfl, Nat.le_refl 1⟩

theorem Extends.isEven {earlier later : Buffer} {count : Nat} (h : earlier.Extends later count)
    (heven : earlier.IsEven) : later.IsEven := by
  obtain ⟨quasis, holes, hquasis, hholes, hlength, -⟩ := h
  rw [IsEven, hquasis, hholes, List.length_append, List.length_append, heven, hlength]

end Buffer

namespace Written

/-- What was written makes any buffer grow by this text and this hole. -/
def Adds (written : Written) (text : Text) (hole : Option Hole) : Prop :=
  ∀ buffer : Buffer, buffer.Grows (buffer.writeAll written.segments) text hole

theorem adds_text (value : Text) : (text value).Adds value none :=
  fun _ => ⟨rfl, rfl, rfl⟩

theorem adds_fail (failure : Failure) : (fail failure).Adds [] none :=
  fun buffer => ⟨rfl, rfl, (List.append_nil buffer.pending).symm⟩

theorem adds_hole (value : Hole) : (hole (.ok value)).Adds [] (some value) := by
  intro buffer
  refine ⟨?_, rfl, rfl⟩
  rw [List.append_nil]
  rfl

theorem Adds.append {first second : Written} {text other : Text} {hole : Option Hole}
    (hfirst : first.Adds text none) (hnone : first.failure = none)
    (hsecond : second.Adds other hole) : (first ++ second).Adds (text ++ other) hole := by
  obtain ⟨segments, failure⟩ := first
  cases hnone
  intro buffer
  have hsegments : (⟨segments, none⟩ ++ second : Written).segments =
      segments ++ second.segments := rfl
  rw [hsegments, Buffer.writeAll_append]
  exact (hfirst buffer).trans (hsecond _)

end Written

/-! ## One attribute -/

/-- No quotes can hold the value of an attribute. -/
def NeedsLiteral (value : Text) : Prop :=
  '\n' ∈ value ∨ '\r' ∈ value ∨ '"' ∈ value ∧ '\'' ∈ value

instance (value : Text) : Decidable (NeedsLiteral value) :=
  inferInstanceAs (Decidable ('\n' ∈ value ∨ '\r' ∈ value ∨ '"' ∈ value ∧ '\'' ∈ value))

namespace Attribute

/-- The text before the value of an attribute. -/
def lead : Attribute → Text
  | .flag name => ' ' :: name
  | .string name _ _ => ' ' :: name ++ ['=']
  | .expression name _ _ => ' ' :: name ++ ['=']
  | .spread _ => [' ', '.', '.', '.']
  | .blank => [' ']

/-- What an attribute is written as after its lead: a text, and perhaps a hole. -/
inductive Puts (settings : Settings) : Attribute → Text → Option Hole → Prop
  | flag (name : Text) : Puts settings (.flag name) [] none
  | quoted {name raw value : Text} {written quote : Char}
      (hdecode : Reference.decode raw = .ok value) (hplain : ¬ NeedsLiteral value)
      (hquote : quote = if '"' ∈ value then '\'' else '"') :
      Puts settings (.string name raw written) (quote :: value ++ [quote]) none
  | literal {name raw value : Text} {written : Char}
      (hdecode : Reference.decode raw = .ok value) (hneeds : NeedsLiteral value) :
      Puts settings (.string name raw written) [] (some (.literal value))
  | expression {name : Text} {value : Expression} {position : Position} {hole : Hole}
      (hcompile : compileExpression settings value = .ok hole) :
      Puts settings (.expression name (some value) position) [] (some hole)
  | spread {value : Expression} {hole : Hole}
      (hcompile : compileExpression settings value = .ok hole) :
      Puts settings (.spread value) [] (some hole)

end Attribute

/-- An attribute is written after its lead, or stopped within it. -/
inductive WritesOrStops (settings : Settings) (attr : Attribute) (written : Written) : Prop
  | writes (value : Text) (hole : Option Hole) (hdone : written.failure = none)
      (hputs : attr.Puts settings value hole) (hadds : written.Adds (attr.lead ++ value) hole)
  | stops (part : Text) (hstopped : written.failure ≠ none) (hpart : part <+: attr.lead)
      (hadds : written.Adds part none)

section Attribute

variable {settings : Settings}

theorem encodeValue_of_decode {raw value : Text} (h : Reference.decode raw = .ok value) :
    NeedsLiteral value ∧ encodeValue raw = .ok (.literal value) ∨
      ¬ NeedsLiteral value ∧
        encodeValue raw = .ok (.between (if '"' ∈ value then '\'' else '"') value) := by
  have hencode : encodeValue raw = .ok (if NeedsLiteral value then .literal value
      else .between (if '"' ∈ value then '\'' else '"') value) := by
    simp only [encodeValue, h, bind, Except.bind, pure, Except.pure, List.contains_iff_mem,
      Bool.or_eq_true, Bool.and_eq_true, or_assoc]
    rfl
  by_cases hneeds : NeedsLiteral value
  · exact .inl ⟨hneeds, by rw [hencode, if_pos hneeds]⟩
  · exact .inr ⟨hneeds, by rw [hencode, if_neg hneeds]⟩

theorem writeAttribute_string (name raw : Text) (quote : Char) :
    WritesOrStops settings (.string name raw quote)
      (writeAttribute settings (.string name raw quote)) := by
  have hspace := Written.adds_text [' ']
  have hname := Written.adds_text (name ++ ['='])
  rw [writeAttribute, writeString]
  cases hdecode : Reference.decode raw with
  | error error =>
      have hencode : encodeValue raw = .error error := by
        simp [encodeValue, hdecode, bind, Except.bind]
      rw [hencode]
      exact .stops [' '] (by simp) (by simp [Attribute.lead])
        (hspace.append rfl (Written.adds_fail _))
  | ok value =>
      rcases encodeValue_of_decode hdecode with ⟨hneeds, hencode⟩ | ⟨hplain, hencode⟩
      · rw [hencode]
        exact .writes [] _ rfl (.literal hdecode hneeds)
          (hspace.append rfl (hname.append rfl (Written.adds_hole _)))
      · rw [hencode]
        refine .writes _ none rfl (.quoted hdecode hplain rfl) ?_
        have hlead : Attribute.lead (.string name raw quote) = [' '] ++ (name ++ ['=']) := rfl
        rw [hlead, List.append_assoc]
        exact hspace.append rfl (hname.append rfl (Written.adds_text _))

/-- An attribute whose value is a hole once its expression is compiled. -/
theorem writesOrStops_hole {attr : Attribute} {before : Written} {result : Except Failure Hole}
    (hbefore : before.Adds attr.lead none) (hnone : before.failure = none)
    (hputs : ∀ value, result = .ok value → attr.Puts settings [] (some value)) :
    WritesOrStops settings attr (before ++ .hole result) := by
  cases result with
  | ok value =>
      exact .writes [] _ (by simp [hnone, failureOf]) (hputs value rfl)
        (hbefore.append hnone (Written.adds_hole value))
  | error failure =>
      have hadds := hbefore.append hnone (Written.adds_fail failure)
      rw [List.append_nil] at hadds
      exact .stops attr.lead (by simp [hnone, failureOf]) (List.prefix_refl _) hadds

theorem writeAttribute_writesOrStops (settings : Settings) (attr : Attribute) :
    WritesOrStops settings attr (writeAttribute settings attr) := by
  have hspace := Written.adds_text [' ']
  cases attr with
  | flag name =>
      rw [writeAttribute]
      have hadds := hspace.append rfl (Written.adds_text name)
      exact .writes [] none rfl (.flag name) (by simpa [Attribute.lead] using hadds)
  | string name raw quote => exact writeAttribute_string name raw quote
  | expression name value position =>
      cases value with
      | none =>
          rw [writeAttribute]
          exact .stops [' '] (by simp) (by simp [Attribute.lead])
            (hspace.append rfl (Written.adds_fail _))
      | some value =>
          rw [writeAttribute]
          exact writesOrStops_hole (hspace.append rfl (Written.adds_text _)) rfl
            fun hole hcompile => .expression hcompile
  | spread value =>
      rw [writeAttribute]
      exact writesOrStops_hole (hspace.append rfl (Written.adds_text _)) rfl
        fun hole hcompile => .spread hcompile
  | blank =>
      rw [writeAttribute]
      exact .stops [' '] (by simp) (List.prefix_refl _)
        (hspace.append rfl (Written.adds_fail _))

end Attribute

/-! ## Attributes one after the other -/

namespace Buffer

/-- Writes an attribute.  What it wrote before it failed stays in the buffer. -/
def serialize (settings : Settings) (buffer : Buffer) (attr : Attribute) :
    Buffer × Option Failure :=
  let written := writeAttribute settings attr
  (buffer.writeAll written.segments, written.failure)

/-- Writes attributes in turn, whether or not some of them fail. -/
def serializeAll (settings : Settings) (buffer : Buffer) (all : List Attribute) : Buffer :=
  all.foldl (fun buffer attr => (buffer.serialize settings attr).1) buffer

theorem extends_serialize (settings : Settings) (buffer : Buffer) (attr : Attribute) :
    buffer.Extends (buffer.serialize settings attr).1 1 := by
  cases writeAttribute_writesOrStops settings attr with
  | writes value hole _ _ hadds => exact (hadds buffer).extends
  | stops part _ _ hadds => exact (hadds buffer).extends

theorem extends_serializeAll (settings : Settings) (buffer : Buffer) (all : List Attribute) :
    buffer.Extends (buffer.serializeAll settings all) all.length := by
  induction all generalizing buffer with
  | nil => exact .refl buffer
  | cons attr all ih =>
      rw [List.length_cons, Nat.add_comm]
      exact (buffer.extends_serialize settings attr).trans (ih _)

/-- An attribute that can be written adds its text and at most one hole, one that cannot adds a part
of its lead, and nothing written before is changed; so whatever attributes were written, the
template can be built. -/
theorem attributes_add_one_hole_or_none (settings : Settings) (buffer : Buffer)
    (all : List Attribute) :
    (∀ before attr after, all = before ++ attr :: after →
      let earlier := buffer.serializeAll settings before
      let step := earlier.serialize settings attr
      buffer.serializeAll settings (before ++ [attr]) = step.1 ∧
      (step.2 = none → ∃ value hole, attr.Puts settings value hole ∧
        earlier.Grows step.1 (attr.lead ++ value) hole) ∧
      (step.2 ≠ none → ∃ part, part <+: attr.lead ∧ earlier.Grows step.1 part none)) ∧
    buffer.Extends (buffer.serializeAll settings all) all.length ∧
    ∀ steps built, empty.run steps = .ok (buffer, built) → ∀ before, before <+: all → ∀ tag,
      ∃ template rest, (buffer.serializeAll settings before).build? tag = .ok (template, rest) := by
  refine ⟨?_, buffer.extends_serializeAll settings all, ?_⟩
  · intro before attr after _ earlier step
    refine ⟨by simp [serializeAll, earlier, step], ?_⟩
    cases writeAttribute_writesOrStops settings attr with
    | writes value hole hdone hputs hadds =>
        exact ⟨fun _ => ⟨value, hole, hputs, hadds earlier⟩, fun hfails => absurd hdone hfails⟩
    | stops part hstopped hpart hadds =>
        exact ⟨fun hdone => absurd hdone hstopped, fun _ => ⟨part, hpart, hadds earlier⟩⟩
  · intro steps built hrun before _ tag
    have hempty : empty.IsEven := rfl
    obtain ⟨last, others, hlast, heven⟩ := hempty.run steps
    rw [hrun] at hlast
    cases hlast
    have hbuild := ((buffer.extends_serializeAll settings before).isEven heven).build?_eq tag
    exact ⟨_, _, hbuild⟩

/-- A value with both quotes, a spread among the children of a tree in an expression, braces with
nothing between them, and a flag. -/
def mixedAttributes : List Attribute := [
  .string ['a'] ['"', '\''] '"',
  .expression ['b'] (some ⟨[.tree (.fragment [.spread ⟨[], {}⟩] {})], {}⟩) {},
  .expression ['c'] none {},
  .flag ['d']]

/-- The first of them makes a hole, the second stops after its lead, and a template can be built
after the third. -/
theorem mixedAttributes_serialized :
    (∃ hole, Buffer.Grows ⟨[], [], ['<', 'p']⟩
      (serializeAll {} ⟨[], [], ['<', 'p']⟩ (mixedAttributes.take 1)) [' ', 'a', '='] (some hole)) ∧
    (∃ part, part <+: [' ', 'b', '='] ∧
      Buffer.Grows (serializeAll {} ⟨[], [], ['<', 'p']⟩ (mixedAttributes.take 1))
        (serializeAll {} ⟨[], [], ['<', 'p']⟩ (mixedAttributes.take 2)) part none) ∧
    ∃ template rest, (serializeAll {} ⟨[], [], ['<', 'p']⟩ (mixedAttributes.take 3)).build? ['t'] =
      .ok (template, rest) := by
  obtain ⟨hsteps, -, hbuild⟩ :=
    attributes_add_one_hole_or_none {} ⟨[], [], ['<', 'p']⟩ mixedAttributes
  refine ⟨?_, ?_, ?_⟩
  · have hboth : Reference.decode ['"', '\''] = .ok ['"', '\''] := by decide +kernel
    obtain ⟨-, hdone, -⟩ := hsteps [] _ _ rfl
    obtain ⟨value, hole, hputs, hgrows⟩ := hdone (by decide +kernel)
    cases hputs with
    | quoted hdecode hplain =>
        rw [hboth, Except.ok.injEq] at hdecode
        exact absurd (by rw [← hdecode]; decide) hplain
    | literal => exact ⟨_, hgrows⟩
  · obtain ⟨-, -, hstopped⟩ := hsteps (mixedAttributes.take 1) _ _ rfl
    exact hstopped (by decide +kernel)
  · exact hbuild [.text ['<', 'p']] [] rfl (mixedAttributes.take 3) (List.take_prefix _ _) ['t']

end Buffer

end TaggedMarkup
