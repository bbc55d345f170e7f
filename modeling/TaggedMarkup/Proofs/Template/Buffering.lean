import Mathlib.Data.List.Basic
import Mathlib.Data.List.Induction
import Mathlib.Logic.Relation
import TaggedMarkup.Failure
import TaggedMarkup.Template.Buffer

/-!
# Steps on a buffer

A buffer takes texts and holes, and may be asked for a template at any time and
more than once.  Its state is known from the steps alone: the holes cut them
into gaps, and of a gap it keeps the texts that no build in the gap has taken.
Every build returns the holes so far and, escaped as a whole, what is kept of
each gap, so it does not matter in how many pieces a text was written.
-/

namespace TaggedMarkup

namespace Buffer

inductive Step where
  | text (value : Text)
  | hole (value : Hole)
  | build (tag : Text)

/-- One step, with the template that it returns if it is a build. -/
def perform (buffer : Buffer) : Step → Except Template.Miscount (Buffer × List Template)
  | .text text => .ok (buffer.text text, [])
  | .hole hole => .ok (buffer.hole hole, [])
  | .build tag => do
    let (template, rest) ← buffer.build? tag
    pure (rest, [template])

def run (buffer : Buffer) : List Step → Except Template.Miscount (Buffer × List Template)
  | [] => .ok (buffer, [])
  | step :: steps => do
    let (next, built) ← buffer.perform step
    let (last, others) ← next.run steps
    pure (last, built ++ others)

/-! ## Gaps -/

namespace Step

def tag? : Step → Option Text
  | .build tag => some tag
  | _ => none

def hole? : Step → Option Hole
  | .hole value => some value
  | _ => none

def written : Step → Text
  | .text value => value
  | _ => []

end Step

/-- The steps before, between and after the holes; `gap` are those since the last hole. -/
def gapsFrom (gap : List Step) : List Step → List (List Step)
  | [] => [gap]
  | .hole _ :: steps => gap :: gapsFrom [] steps
  | step :: steps => gapsFrom (gap ++ [step]) steps

/-- The texts of a gap after its last build. -/
def untaken (gap : List Step) : Text :=
  (gap.reverse.takeWhile (·.tag?.isNone)).reverse.flatMap Step.written

/-- The template of the steps so far: the holes, and between them what is left of the gaps. -/
def templateAfter (tag : Text) (steps : List Step) : Template :=
  ⟨tag, (gapsFrom [] steps).map fun gap => escape (untaken gap), steps.filterMap Step.hole?⟩

/-- The templates that the builds among some steps should return, each of the steps before it. -/
def builtBy (steps : List Step) : List Template :=
  (List.range steps.length).filterMap fun place =>
    (steps[place]?.bind Step.tag?).map fun tag => templateAfter tag (steps.take place)

theorem builtBy_concat (steps : List Step) (step : Step) :
    builtBy (steps ++ [step]) =
      builtBy steps ++ (step.tag?.map fun tag => templateAfter tag steps).toList := by
  have hearlier : ∀ place ∈ List.range steps.length,
      (((steps ++ [step])[place]?.bind Step.tag?).map fun tag =>
        templateAfter tag ((steps ++ [step]).take place)) =
      (steps[place]?.bind Step.tag?).map fun tag => templateAfter tag (steps.take place) := by
    intro place hmem
    have hplace := List.mem_range.mp hmem
    rw [List.getElem?_append_left hplace, List.take_append_of_le_length (by omega)]
  rw [builtBy, List.length_append, List.length_singleton, List.range_succ, List.filterMap_append,
    List.filterMap_congr hearlier, builtBy]
  cases step <;> simp [Step.tag?]

@[simp] theorem untaken_concat_text (gap : List Step) (text : Text) :
    untaken (gap ++ [.text text]) = untaken gap ++ text := by
  simp [untaken, Step.tag?, Step.written]

@[simp] theorem untaken_concat_build (gap : List Step) (tag : Text) :
    untaken (gap ++ [.build tag]) = [] := by
  simp [untaken, Step.tag?]

/-! ## Runs -/

theorem IsEven.perform {buffer : Buffer} (h : buffer.IsEven) (step : Step) :
    ∃ next built, buffer.perform step = .ok (next, built) ∧ next.IsEven := by
  cases step with
  | text text => exact ⟨_, _, rfl, h.write (.text text)⟩
  | hole hole => exact ⟨_, _, rfl, h.write (.hole hole)⟩
  | build tag =>
      refine ⟨{ buffer with pending := [] }, [(buffer.build tag).1], ?_, h⟩
      rw [Buffer.perform, h.build?_eq]
      rfl

theorem run_cons {buffer next last : Buffer} {step : Step} {steps : List Step}
    {built others : List Template} (hstep : buffer.perform step = .ok (next, built))
    (hsteps : next.run steps = .ok (last, others)) :
    buffer.run (step :: steps) = .ok (last, built ++ others) := by
  rw [run, hstep]
  change (next.run steps >>= _) = _
  rw [hsteps]
  rfl

theorem run_cons_eq_ok {buffer last : Buffer} {step : Step} {steps : List Step}
    {built : List Template} (h : buffer.run (step :: steps) = .ok (last, built)) :
    ∃ next first others, buffer.perform step = .ok (next, first) ∧
      next.run steps = .ok (last, others) ∧ built = first ++ others := by
  rw [run] at h
  obtain ⟨⟨next, first⟩, hstep, h⟩ := exists_of_bind_eq_ok h
  obtain ⟨⟨final, others⟩, hsteps, h⟩ := exists_of_bind_eq_ok h
  cases h
  exact ⟨next, first, others, hstep, hsteps, rfl⟩

theorem run_append {buffer middle last : Buffer} {before after : List Step}
    {built others : List Template} (hbefore : buffer.run before = .ok (middle, built))
    (hafter : middle.run after = .ok (last, others)) :
    buffer.run (before ++ after) = .ok (last, built ++ others) := by
  induction before generalizing buffer built with
  | nil =>
      cases hbefore
      exact hafter
  | cons step before ih =>
      obtain ⟨next, first, rest, hstep, hrest, rfl⟩ := run_cons_eq_ok hbefore
      rw [List.append_assoc]
      exact run_cons hstep (ih hrest)

theorem IsEven.run {buffer : Buffer} (h : buffer.IsEven) (steps : List Step) :
    ∃ last built, buffer.run steps = .ok (last, built) ∧ last.IsEven := by
  induction steps generalizing buffer with
  | nil => exact ⟨buffer, [], rfl, h⟩
  | cons step steps ih =>
      obtain ⟨next, built, hstep, hnext⟩ := h.perform step
      obtain ⟨last, others, hsteps, hlast⟩ := ih hnext
      exact ⟨last, built ++ others, run_cons hstep hsteps, hlast⟩

/-- The template of a buffer after a run: its own quasis and holes, and after them those of the
steps, where `gap` are the steps since its last hole. -/
theorem build_of_run {buffer last : Buffer} {gap steps : List Step} {built : List Template}
    (heven : buffer.IsEven) (hgap : buffer.pending = untaken gap)
    (hrun : buffer.run steps = .ok (last, built)) (tag : Text) :
    (last.build tag).1 =
      ⟨tag, buffer.quasis ++ (gapsFrom gap steps).map fun gap => escape (untaken gap),
        buffer.holes ++ steps.filterMap Step.hole?⟩ := by
  induction steps generalizing buffer gap built with
  | nil =>
      cases hrun
      simp [Buffer.build, gapsFrom, hgap]
  | cons step steps ih =>
      obtain ⟨next, first, others, hstep, hsteps, -⟩ := run_cons_eq_ok hrun
      cases step with
      | text value =>
          cases hstep
          have hnext : (buffer.text value).IsEven := heven.write (.text value)
          have hpending : (buffer.text value).pending = untaken (gap ++ [.text value]) := by
            rw [untaken_concat_text, ← hgap]
            rfl
          rw [ih hnext hpending hsteps]
          rfl
      | hole value =>
          cases hstep
          have hnext : (buffer.hole value).IsEven := heven.write (.hole value)
          have hpending : (buffer.hole value).pending = untaken [] := rfl
          rw [ih hnext hpending hsteps]
          simp [Buffer.hole, gapsFrom, Step.hole?, hgap]
      | build other =>
          -- the build takes what was pending, so the gap goes on with nothing kept of it
          rw [perform, heven.build?_eq] at hstep
          cases hstep
          have hnext : (buffer.build other).2.IsEven := heven
          have hpending : (buffer.build other).2.pending = untaken (gap ++ [.build other]) := by
            rw [untaken_concat_build]
            rfl
          rw [ih hnext hpending hsteps]
          rfl

theorem perform_build {buffer : Buffer} {before : List Step} {built : List Template}
    (hrun : empty.run before = .ok (buffer, built)) (heven : buffer.IsEven) (tag : Text) :
    buffer.perform (.build tag) = .ok ((buffer.build tag).2, [templateAfter tag before]) := by
  have hempty : empty.IsEven := rfl
  have hpending : empty.pending = untaken [] := rfl
  have htemplate : (buffer.build tag).1 = templateAfter tag before :=
    build_of_run hempty hpending hrun tag
  rw [perform, heven.build?_eq, ← htemplate]
  rfl

/-! ## Texts in pieces -/

/-- The same texts, one of them written in two pieces, or an empty one more. -/
inductive Regroups : List Step → List Step → Prop
  | split (before after : List Step) (first second : Text) :
      Regroups (before ++ .text (first ++ second) :: after)
        (before ++ .text first :: .text second :: after)
  | insert (before after : List Step) :
      Regroups (before ++ after) (before ++ .text [] :: after)

theorem run_text (buffer : Buffer) (value : Text) (steps : List Step) :
    buffer.run (.text value :: steps) = (buffer.text value).run steps := by
  rw [run]
  change ((buffer.text value).run steps >>= _) = _
  cases (buffer.text value).run steps with
  | error failure => rfl
  | ok result => rfl

theorem text_append (buffer : Buffer) (first second : Text) :
    buffer.text (first ++ second) = (buffer.text first).text second := by
  simp [Buffer.text]

theorem text_nil (buffer : Buffer) : buffer.text [] = buffer := by
  simp [Buffer.text]

theorem run_append_congr (before : List Step) {steps others : List Step}
    (h : ∀ buffer : Buffer, buffer.run others = buffer.run steps) :
    empty.run (before ++ others) = empty.run (before ++ steps) := by
  have hempty : empty.IsEven := rfl
  obtain ⟨buffer, built, hbefore, heven⟩ := hempty.run before
  obtain ⟨last, rest, hsteps, -⟩ := heven.run steps
  rw [run_append hbefore hsteps, run_append hbefore ((h buffer).trans hsteps)]

theorem Regroups.run_eq {steps others : List Step} (h : Regroups steps others) :
    empty.run others = empty.run steps := by
  cases h with
  | split before after first second =>
      apply run_append_congr
      intro buffer
      rw [run_text, run_text, run_text, text_append]
  | insert before after =>
      apply run_append_congr
      intro buffer
      rw [run_text, text_nil]

theorem run_eq_of_regroups {steps others : List Step} (h : Relation.EqvGen Regroups steps others) :
    empty.run others = empty.run steps := by
  induction h with
  | rel steps others h => exact h.run_eq
  | refl steps => rfl
  | symm steps others _ ih => exact ih.symm
  | trans steps middle others _ _ hfirst hsecond => exact hsecond.trans hfirst

/-! ## Refinement -/

theorem run_empty (steps : List Step) :
    ∃ last, empty.run steps = .ok (last, builtBy steps) ∧ last.IsEven := by
  induction steps using List.reverseRecOn with
  | nil => exact ⟨empty, rfl, rfl⟩
  | append_singleton steps step ih =>
      obtain ⟨buffer, hsteps, heven⟩ := ih
      obtain ⟨next, built, hstep, hnext⟩ := heven.perform step
      have hbuilt : built = (step.tag?.map fun tag => templateAfter tag steps).toList := by
        cases step with
        | text value => cases hstep; rfl
        | hole value => cases hstep; rfl
        | build tag =>
            rw [perform_build hsteps heven] at hstep
            cases hstep
            rfl
      have hlast : buffer.run [step] = .ok (next, built ++ []) := run_cons hstep rfl
      refine ⟨next, ?_, hnext⟩
      rw [run_append hsteps hlast, List.append_nil, hbuilt, builtBy_concat]

/-- Every run on a fresh buffer goes through, and its builds return the templates of the steps
before them; after every step there are as many finished quasis as holes; and the same texts in
other pieces lead to the same buffer and the same templates. -/
theorem buffer_refines_steps (steps : List Step) :
    ∃ last, empty.run steps = .ok (last, builtBy steps) ∧
      (∀ before, before <+: steps → ∃ buffer, empty.run before = .ok (buffer, builtBy before) ∧
        buffer.quasis.length = buffer.holes.length) ∧
      ∀ others, Relation.EqvGen Regroups steps others →
        empty.run others = .ok (last, builtBy steps) := by
  obtain ⟨last, hsteps, -⟩ := run_empty steps
  refine ⟨last, hsteps, ?_, ?_⟩
  · intro before _
    exact run_empty before
  · intro others hregroups
    rw [run_eq_of_regroups hregroups, hsteps]

/-- A build in the middle of a gap, and after it what opens a hole, in two pieces. -/
def twoBuilds : List Step :=
  [.text ['a'], .build ['t'], .text ['$'], .text ['\x7b'], .hole .blank, .build ['t']]

theorem twoBuilds_regrouped :
    (∃ buffer, empty.run (twoBuilds.take 5) = .ok (buffer, [⟨['t'], [['a']], []⟩]) ∧
      buffer.quasis.length = buffer.holes.length) ∧
    ∃ last, empty.run [.text ['a'], .build ['t'], .text ['$', '\x7b'], .hole .blank, .text [],
      .build ['t']] = .ok (last, [⟨['t'], [['a']], []⟩,
        ⟨['t'], [['\\', '$', '\x7b'], []], [.blank]⟩]) := by
  have hjoined : Regroups [.text ['a'], .build ['t'], .text ['$', '\x7b'], .hole .blank,
      .build ['t']] twoBuilds :=
    .split [.text ['a'], .build ['t']] [.hole .blank, .build ['t']] ['$'] ['\x7b']
  have hempty := Regroups.insert [.text ['a'], .build ['t'], .text ['$', '\x7b'], .hole .blank]
    [.build ['t']]
  obtain ⟨last, -, hbefore, hothers⟩ := buffer_refines_steps twoBuilds
  constructor
  · exact hbefore (twoBuilds.take 5) (List.take_prefix 5 twoBuilds)
  · exact ⟨last, hothers _ (.trans _ _ _ (.symm _ _ (.rel _ _ hjoined)) (.rel _ _ hempty))⟩

end Buffer

end TaggedMarkup
