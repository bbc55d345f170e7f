import Mathlib.Data.List.Nodup
import Mathlib.Data.List.Sort
import TaggedMarkup.Proofs.Document.Layout

/-!
# Sessions

A document is edited by calls that replace a root, read a tree or render the
program.  Only replacing changes it.  The roots replaced begin at different
places, so that sorting the edits puts any order of the calls into the order of
the program, and what is rendered depends on the replacements alone.
-/

namespace TaggedMarkup

/-! ## Calls -/

inductive Call where
  | replace (root : Cursor) (template : Template)
  | render
  | read (root : Cursor)

inductive Answer where
  | done
  | text (result : Except Failure Text)
  | tree (result : Except Failure Tree)

/-- The roots that calls replace, each with its template. -/
def replacementsOf : List Call → List (Cursor × Template)
  | [] => []
  | .replace root template :: calls => (root, template) :: replacementsOf calls
  | .render :: calls => replacementsOf calls
  | .read _ :: calls => replacementsOf calls

namespace Document

def perform (document : Document) : Call → Document
  | .replace root template => document.replace root template
  | .render => document
  | .read _ => document

def answer (document : Document) : Call → Answer
  | .replace _ _ => .done
  | .render => .text document.render
  | .read root => .tree (document.read root)

/-- The document after some calls, and the answer to each. -/
def session (document : Document) : List Call → Document × List Answer
  | [] => (document, [])
  | call :: calls =>
    let rest := (document.perform call).session calls
    (rest.1, document.answer call :: rest.2)

def replaceAll (document : Document) (made : List (Cursor × Template)) : Document :=
  made.foldl (fun document replacement => document.replace replacement.1 replacement.2) document

theorem session_fst (document : Document) (calls : List Call) :
    (document.session calls).1 = document.replaceAll (replacementsOf calls) := by
  induction calls generalizing document with
  | nil => rfl
  | cons call calls ih =>
      change ((document.perform call).session calls).1 = _
      rw [ih]
      cases call <;> rfl

/-- A call is answered by the document that the calls before it leave. -/
theorem session_answer (document : Document) (before : List Call) (call : Call)
    (after : List Call) :
    (document.session (before ++ call :: after)).2[before.length]? =
      some ((document.session before).1.answer call) := by
  induction before generalizing document with
  | nil => rfl
  | cons first before ih => exact ih (document.perform first)

end Document

theorem replacementsOf_append (before after : List Call) :
    replacementsOf (before ++ after) = replacementsOf before ++ replacementsOf after := by
  induction before with
  | nil => rfl
  | cons call before ih => cases call <;> simp [replacementsOf, ih]

/-! ## Edits in order -/

def editOf (replacement : Cursor × Template) : Edit :=
  ⟨replacement.1.node.start, replacement.1.node.stop, replacement.2⟩

def inPlace (made : List (Cursor × Template)) : List (Cursor × Template) :=
  made.mergeSort fun first second => decide (first.1.node.start ≤ second.1.node.start)

theorem Document.replaceAll_eq (document : Document) (made : List (Cursor × Template)) :
    document.replaceAll made =
      { document with edits := document.edits ++ made.map editOf } := by
  induction made generalizing document with
  | nil => simp [Document.replaceAll]
  | cons replacement made ih =>
      change (document.replace replacement.1 replacement.2).replaceAll made = _
      rw [ih]
      simp [Document.replace, editOf]

theorem map_inPlace (made : List (Cursor × Template)) :
    (made.map editOf).mergeSort (fun first second => decide (first.start ≤ second.start)) =
      (inPlace made).map editOf := by
  symm
  apply List.map_mergeSort
  intro first _ second _
  rfl

theorem perm_inPlace (made : List (Cursor × Template)) : (inPlace made).Perm made :=
  List.mergeSort_perm made _

theorem ordered_inPlace (made : List (Cursor × Template)) :
    (inPlace made).Pairwise fun first second => first.1.node.start ≤ second.1.node.start := by
  have hsorted : (inPlace made).Pairwise fun first second =>
      decide (first.1.node.start ≤ second.1.node.start) = true := by
    apply List.pairwise_mergeSort
    · intro first second third hfirst hsecond
      exact decide_eq_true (Nat.le_trans (of_decide_eq_true hfirst) (of_decide_eq_true hsecond))
    · intro first second
      simpa using Nat.le_total first.1.node.start second.1.node.start
  exact hsorted.imp of_decide_eq_true

/-- A document without edits, with nested ranges and roots that are not empty. -/
structure Document.Fresh (document : Document) : Prop where
  unedited : document.edits = []
  nested : document.tree.root.WellFormed
  wide : ∀ root ∈ document.roots, root.node.start < root.node.stop

/-- Each replacement is of a root of its own. -/
structure Document.Chooses (document : Document) (made : List (Cursor × Template)) : Prop where
  roots : ∀ replacement ∈ made, replacement.1 ∈ document.roots
  distinct : (made.map Prod.fst).Nodup

section Order

variable {document : Document} {made : List (Cursor × Template)}

theorem Document.Fresh.increasing (hfresh : document.Fresh) :
    document.roots.Pairwise fun first second => first.node.start < second.node.start := by
  have hordered := (Node.trees_within none document.tree.root hfresh.nested).2
  apply hordered.imp_of_mem
  intro first second hfirst _ happart
  exact Nat.lt_of_lt_of_le (hfresh.wide first hfirst) happart

theorem Document.Chooses.perm {other : List (Cursor × Template)} (hmade : document.Chooses made)
    (hsame : other.Perm made) : document.Chooses other where
  roots replacement hmem := hmade.roots replacement (hsame.mem_iff.mp hmem)
  distinct := (hsame.map Prod.fst).nodup_iff.mpr hmade.distinct

theorem Document.Chooses.left {later : List (Cursor × Template)}
    (hmade : document.Chooses (made ++ later)) : document.Chooses made where
  roots replacement hmem := hmade.roots replacement (List.mem_append_left later hmem)
  distinct := by
    have hdistinct := hmade.distinct
    rw [List.map_append] at hdistinct
    exact hdistinct.of_append_left

theorem Document.Chooses.starts_nodup (hfresh : document.Fresh) (hmade : document.Chooses made) :
    (made.map fun replacement => replacement.1.node.start).Nodup := by
  have hinjective : ∀ first ∈ document.roots, ∀ second ∈ document.roots,
      first.node.start = second.node.start → first = second := by
    have hstarts : (document.roots.map fun root => root.node.start).Nodup :=
      List.pairwise_map.mpr (hfresh.increasing.imp Nat.ne_of_lt)
    exact fun first hfirst second hsecond => List.inj_on_of_nodup_map hstarts hfirst hsecond
  have hroots : ∀ root ∈ made.map Prod.fst, root ∈ document.roots := by
    intro root hmem
    obtain ⟨replacement, hreplacement, rfl⟩ := List.mem_map.mp hmem
    exact hmade.roots replacement hreplacement
  rw [show (fun replacement : Cursor × Template => replacement.1.node.start) =
    (fun root : Cursor => root.node.start) ∘ Prod.fst from rfl, ← List.map_map]
  exact hmade.distinct.map_on fun first hfirst second hsecond =>
    hinjective first (hroots first hfirst) second (hroots second hsecond)

theorem Document.Chooses.increasing (hfresh : document.Fresh) (hmade : document.Chooses made) :
    (inPlace made).Pairwise fun first second => first.1.node.start < second.1.node.start := by
  have hdistinct := (hmade.perm (perm_inPlace made)).starts_nodup hfresh
  apply ((ordered_inPlace made).and (List.pairwise_map.mp hdistinct)).imp
  rintro first second ⟨hle, hne⟩
  exact Nat.lt_of_le_of_ne hle hne

/-- Sorting forgets in what order the replacements were made. -/
theorem Document.Chooses.inPlace_congr {other : List (Cursor × Template)}
    (hfresh : document.Fresh) (hmade : document.Chooses made) (hsame : other.Perm made) :
    inPlace other = inPlace made := by
  have hperm : (inPlace other).Perm (inPlace made) :=
    (perm_inPlace other).trans (hsame.trans (perm_inPlace made).symm)
  apply hperm.eq_of_pairwise _ ((hmade.perm hsame).increasing hfresh) (hmade.increasing hfresh)
  intro first second _ _ hlt hgt
  exact absurd hgt (Nat.lt_asymm hlt)

theorem Document.Chooses.inPlace_sublist (hfresh : document.Fresh)
    (hmade : document.Chooses made) : ((inPlace made).map Prod.fst).Sublist document.roots := by
  have hplaced := hmade.perm (perm_inPlace made)
  have hsubset : (inPlace made).map Prod.fst ⊆ document.roots := by
    intro root hmem
    obtain ⟨replacement, hreplacement, rfl⟩ := List.mem_map.mp hmem
    exact hplaced.roots replacement hreplacement
  have hantisymm : Std.Antisymm fun first second : Cursor =>
      first.node.start < second.node.start :=
    ⟨fun first second hlt hgt => absurd hgt (Nat.lt_asymm hlt)⟩
  exact List.sublist_of_subperm_of_pairwise (List.subperm_of_subset hplaced.distinct hsubset)
    (List.pairwise_map.mpr (hmade.increasing hfresh)) hfresh.increasing

theorem Document.Fresh.render_replaceAll (hfresh : document.Fresh)
    (made : List (Cursor × Template)) :
    (document.replaceAll made).render =
      Document.splice document.source 0 ((inPlace made).map editOf) := by
  rw [Document.replaceAll_eq, Document.render, hfresh.unedited, List.nil_append, map_inPlace]

end Order

/-! ## Bytes -/

theorem render_of_print? {template : Template} {printed : Text}
    (h : template.print? = some printed) : printed = template.render := by
  rw [Template.print?] at h
  split at h <;> cases h
  rfl

theorem Document.splice_eq_ok {source : Source} {placed : List (Cursor × Template)}
    {start : Nat} {text : Text}
    (h : Document.splice source start (placed.map editOf) = .ok text) :
    (∀ replacement ∈ placed, replacement.2.print? = some replacement.2.render) ∧
    Utf8.encode text = replaced source.bytes start
      (placed.map fun replacement => (replacement.1, replacement.2.render)) := by
  induction placed generalizing start text with
  | nil =>
      have hpart := Source.slice_eq_ok h
      rw [List.take_length] at hpart
      exact ⟨by simp, hpart⟩
  | cons replacement placed ih =>
      rw [List.map_cons] at h
      cases hprint : replacement.2.print? with
      | none =>
          rw [Document.splice, show (editOf replacement).template = replacement.2 from rfl,
            hprint] at h
          obtain ⟨before, -, h⟩ := exists_of_bind_eq_ok h
          cases h
      | some printed =>
          obtain ⟨before, after, hbefore, hafter, rfl⟩ := splice_cons hprint h
          obtain ⟨hprints, hbytes⟩ := ih hafter
          have hrender := render_of_print? hprint
          refine ⟨List.forall_mem_cons.mpr ⟨hrender ▸ hprint, hprints⟩, ?_⟩
          rw [Utf8.encode_append, Utf8.encode_append, Source.slice_eq_ok hbefore, hbytes, hrender]
          rfl

theorem Document.exists_splice {code : Text} {source : Source}
    (hsource : source.bytes = Utf8.encode code) {placed : List (Cursor × Template)}
    (haligned : ∀ replacement ∈ placed, replacement.1.node.Aligned code)
    (hprints : ∀ replacement ∈ placed, replacement.2.print? = some replacement.2.render) :
    ∃ text, Document.splice source 0 (placed.map editOf) = .ok text := by
  obtain ⟨bytes, file⟩ := source
  subst hsource
  -- where a root stands in its file is of no account here
  let located : Cursor × Template → Replacement Cursor := fun replacement =>
    ⟨replacement.1, ⟨1, 1⟩, replacement.2⟩
  have haligned : ∀ replacement ∈ placed.map located, replacement.root.node.Aligned code :=
    List.forall_mem_map.mpr haligned
  obtain ⟨text, htext, -⟩ := splice_ofText file (Utf8.isBoundary_zero code) haligned
    (List.forall_mem_map.mpr hprints)
  rw [List.map_map] at htext
  exact ⟨text, htext⟩

/-- An answer to `render` after some replacements.  They are put in the order of the program, and a
text has the bytes of the program with the printed templates in the place of their roots.  There is
a text if the templates can be printed and the roots replaced stand between characters. -/
def Document.Renders (document : Document) (made : List (Cursor × Template))
    (answer : Except Failure Text) : Prop :=
  ∃ placed : List (Cursor × Template),
    placed.Perm made ∧ (placed.map Prod.fst).Sublist document.roots ∧
    (∀ text, answer = .ok text →
      (∀ replacement ∈ made, replacement.2.print? = some replacement.2.render) ∧
      Utf8.encode text = replaced document.source.bytes 0
        (placed.map fun replacement => (replacement.1, replacement.2.render))) ∧
    (∀ code, document.source.bytes = Utf8.encode code →
      (∀ replacement ∈ made, replacement.1.node.Aligned code) →
      (∀ replacement ∈ made, replacement.2.print? = some replacement.2.render) →
      ∃ text, answer = .ok text)

theorem Document.Fresh.renders {document : Document} {made : List (Cursor × Template)}
    (hfresh : document.Fresh) (hmade : document.Chooses made) :
    document.Renders made (document.replaceAll made).render := by
  have hsame : ∀ {motive : Cursor × Template → Prop},
      (∀ replacement ∈ inPlace made, motive replacement) ↔
        ∀ replacement ∈ made, motive replacement :=
    forall_congr' fun _ => imp_congr_left (perm_inPlace made).mem_iff
  rw [hfresh.render_replaceAll]
  refine ⟨inPlace made, perm_inPlace made, hmade.inPlace_sublist hfresh, ?_, ?_⟩
  · intro text htext
    obtain ⟨hprints, hbytes⟩ := Document.splice_eq_ok htext
    exact ⟨hsame.mp hprints, hbytes⟩
  · intro code hsource haligned hprints
    exact Document.exists_splice hsource (hsame.mpr haligned) (hsame.mpr hprints)

/-! ## Any order -/

/-- Whatever the order of the calls, `render` answers with the program in which the roots replaced
so far have their templates in their place, and neither it nor `read` leaves a trace. -/
theorem renders_in_any_order (document : Document) (calls : List Call) (hfresh : document.Fresh)
    (hmade : document.Chooses (replacementsOf calls)) :
    (∀ before after, calls = before ++ .render :: after → ∃ answer,
      (document.session calls).2[before.length]? = some (.text answer) ∧
        document.Renders (replacementsOf before) answer) ∧
    (∀ before root after, calls = before ++ .read root :: after →
      (document.session calls).2[before.length]? = some (.tree (document.read root))) ∧
    (document.session calls).1 = document.replaceAll (replacementsOf calls) ∧
    document.Renders (replacementsOf calls) (document.session calls).1.render ∧
    ∀ other, (replacementsOf other).Perm (replacementsOf calls) →
      (document.session other).1.render = (document.session calls).1.render := by
  refine ⟨?_, ?_, document.session_fst calls, ?_, ?_⟩
  · rintro before after rfl
    rw [replacementsOf_append] at hmade
    refine ⟨_, document.session_answer before .render after, ?_⟩
    rw [document.session_fst]
    exact hfresh.renders hmade.left
  · rintro before root after rfl
    rw [document.session_answer, document.session_fst, document.replaceAll_eq]
    rfl
  · rw [document.session_fst]
    exact hfresh.renders hmade
  · intro other hsame
    rw [document.session_fst, document.session_fst, hfresh.render_replaceAll,
      hfresh.render_replaceAll, hmade.inPlace_congr hfresh hsame]

/-- A template without holes. -/
def plainTemplate (text : Text) : Template :=
  ⟨['t'], [text], []⟩

def namespacedRoots : List Cursor :=
  [⟨tagNode 0 2, none⟩, ⟨tagNode 4 8, some .selfClosing⟩]

/-- The second root is replaced before the first. -/
def backwardCalls : List Call :=
  [.replace ⟨tagNode 4 8, some .selfClosing⟩ (plainTemplate ['y']), .render,
    .read ⟨tagNode 0 2, none⟩, .replace ⟨tagNode 0 2, none⟩ (plainTemplate ['x']), .render]

def forwardCalls : List Call :=
  [.replace ⟨tagNode 0 2, none⟩ (plainTemplate ['x']),
    .replace ⟨tagNode 4 8, some .selfClosing⟩ (plainTemplate ['y'])]

theorem roots_namespaced :
    (Document.parsed namespaced [] namespacedTree).roots = namespacedRoots := by
  rfl

theorem namespaced_fresh : (Document.parsed namespaced [] namespacedTree).Fresh where
  unedited := rfl
  nested := namespacedTree_parsedFrom.nested
  wide := by
    rw [roots_namespaced]
    decide

theorem backwardCalls_chooses :
    (Document.parsed namespaced [] namespacedTree).Chooses (replacementsOf backwardCalls) where
  roots := by
    rw [roots_namespaced]
    simp [backwardCalls, replacementsOf, namespacedRoots]
  distinct := by
    simp [backwardCalls, replacementsOf, tagNode]

theorem backwardCalls_render :
    let document := Document.parsed namespaced [] namespacedTree
    document.Fresh ∧ document.Chooses (replacementsOf backwardCalls) ∧
    document.Renders (replacementsOf backwardCalls)
      (.ok ['t', '\x60', 'x', '\x60', 't', '\x60', 'y', '\x60']) ∧
    (document.session backwardCalls).2[1]? =
      some (.text (.ok ['<', 'a', '/', '>', 't', '\x60', 'y', '\x60'])) ∧
    (document.session forwardCalls).1.render = (document.session backwardCalls).1.render := by
  intro document
  obtain ⟨-, -, -, hrenders, hsame⟩ := renders_in_any_order document backwardCalls
    namespaced_fresh backwardCalls_chooses
  have hforward := hsame forwardCalls (List.Perm.swap _ _ _)
  have hedits : (document.session forwardCalls).1.edits =
      [⟨0, 4, plainTemplate ['x']⟩, ⟨4, 10, plainTemplate ['y']⟩] := rfl
  have hrender : (document.session forwardCalls).1.render =
      .ok ['t', '\x60', 'x', '\x60', 't', '\x60', 'y', '\x60'] := by
    rw [Document.render, hedits, List.mergeSort_of_pairwise (by simp)]
    with_unfolding_all rfl
  rw [← hforward, hrender] at hrenders
  exact ⟨namespaced_fresh, backwardCalls_chooses, hrenders, by with_unfolding_all rfl, hforward⟩

end TaggedMarkup
