import TaggedMarkup.Proofs.Document.Opening
import TaggedMarkup.Proofs.Source.Stopping

/-!
# The file and the place of a diagnostic

A diagnostic may come from opening a program, from reading a root or from
compiling it.  Reading names the file and the place at once; compiling knows no
file and takes the place from the tree, where reading has noted it.  Whatever
its way, a diagnostic that leaves the transformation of a file names that file,
and if it is about a construct, the start of a node in the first root that
fails.
-/

namespace TaggedMarkup

/-! ## Where a diagnostic comes from -/

/-- The first root that cannot be read and compiled, and why. -/
def Document.FailsFirst (document : Document) (settings : Settings) (root : Cursor)
    (failure : Failure) : Prop :=
  ∃ before after, document.roots = before ++ root :: after ∧
    (∀ earlier ∈ before, ∃ template,
      (document.read earlier >>= compile settings) = .ok template) ∧
    (document.read root >>= compile settings) = .error failure

section Diagnostics

variable {settings : Settings} {source : Source} {tree : SyntaxTree}

theorem failure_eq_some_iff (settings : Settings) (document : Document) (failure : Failure) :
    (compileRoots settings document.read document.roots).failure = some failure ↔
      ∃ root, document.FailsFirst settings root failure := by
  constructor
  · intro h
    by_cases hfails : ∃ root ∈ document.roots, ∃ failure,
        (document.read root >>= compile settings) = .error failure
    · obtain ⟨before, root, after, first, hroots, hbefore, hroot⟩ := exists_first_error hfails
      rw [hroots, compileRoots_of_error hbefore hroot, Option.some.injEq] at h
      subst h
      exact ⟨root, before, after, hroots, hbefore, hroot⟩
    · have hcompiles : ∀ root ∈ document.roots, ∃ template,
          (document.read root >>= compile settings) = .ok template := by
        intro root hmem
        cases hroot : document.read root >>= compile settings with
        | ok template => exact ⟨template, rfl⟩
        | error failure => exact absurd ⟨root, hmem, failure, hroot⟩ hfails
      obtain ⟨replacements, hprogress, -⟩ := compileRoots_of_ok hcompiles
      rw [hprogress] at h
      cases h
  · rintro ⟨root, before, after, hroots, hbefore, hroot⟩
    rw [hroots, compileRoots_of_error hbefore hroot]

theorem slice_silent (source : Source) (start stop : Nat) :
    Settles (fun failure => failure.isReported = false) (fun _ => True)
      (source.slice start stop) := by
  unfold Source.slice
  split
  · trivial
  · rfl

theorem read_placed (document : Document) (root : Cursor) :
    Settles (Failure.At document.source.file (document.source.PlaceIn root.node))
      (Tree.Placed (document.source.PlaceIn root.node)) (document.read root) :=
  Document.read_settles
    { report := fun hrefuses hinside => .located hrefuses.category_eq ⟨_, hinside, rfl⟩
      slice := fun _ _ => (slice_silent _ _ _).imp fun _ => .silent
      incomplete := fun _ _ => .silent rfl
      empty := fun _ _ _ => .silent rfl }
    fun _ => .silent rfl

/-- Problems of constructs are raised at a node, by reading with the file, by compiling without. -/
theorem raised_at_node {document : Document} {root : Cursor} {raised : Diagnostic}
    (h : (document.read root >>= compile settings) = .error (.reported raised)) :
    ∃ problem file position, raised = .located problem file position ∧
      (file = [] ∨ file = document.source.file) ∧
      document.source.PlaceIn root.node position := by
  have hread := read_placed document root
  cases hresult : document.read root with
  | error failure =>
      rw [hresult] at h hread
      cases h
      cases hread with
      | located _ hplace => exact ⟨_, _, _, rfl, .inr rfl, hplace⟩
      | silent hsilent => cases hsilent
  | ok read =>
      rw [hresult] at h hread
      have hcompile := compile_settles settings read hread
      change compile settings read = _ at h
      rw [h] at hcompile
      cases hcompile with
      | located _ hplace => exact ⟨_, _, _, rfl, .inl rfl, hplace⟩
      | silent hsilent => cases hsilent

theorem open?_unreadable {failure : Failure} (h : Document.open? source tree = .error failure) :
    ∃ raised : Diagnostic, failure = .reported raised ∧ raised.problem = .unreadable ∧
      raised.file = source.file := by
  rw [Document.open?_eq] at h
  split at h
  · cases h
    cases tree.root.preorder.find? Node.isFault with
    | none => exact ⟨_, rfl, rfl, rfl⟩
    | some fault => exact ⟨_, rfl, rfl, rfl⟩
  · cases h

theorem source_of_open? {document : Document} (h : Document.open? source tree = .ok document) :
    document.source = source := by
  rw [Document.open?_eq] at h
  split at h
  · cases h
  · cases h
    rfl

theorem splice_silent (source : Source) (edits : List Edit) (start : Nat) :
    Settles (fun failure => failure.isReported = false) (fun _ => True)
      (Document.splice source start edits) := by
  induction edits generalizing start with
  | nil => exact slice_silent source _ _
  | cons edit edits ih =>
      rw [Document.splice]
      refine (slice_silent source start edit.start).bind fun before _ => ?_
      split
      · rfl
      · exact (ih edit.stop).bind fun after _ => trivial

theorem render_silent (document : Document) :
    Settles (fun failure => failure.isReported = false) (fun _ => True) document.render :=
  splice_silent _ _ _

theorem Failure.inFile_eq_reported {failure : Failure} {file : Text} {diagnostic : Diagnostic} :
    failure.inFile file = .reported diagnostic ↔
      ∃ raised : Diagnostic, failure = .reported raised ∧ diagnostic = raised.inFile file := by
  cases failure <;> simp [Failure.inFile, eq_comm]

/-- A diagnostic leaves a transformation if opening or the first root that fails has raised it. -/
theorem transformTree_reported {diagnostic : Diagnostic} :
    transformTree settings source tree = .error (.reported diagnostic) ↔
      ∃ raised : Diagnostic, diagnostic = raised.inFile source.file ∧
        (Document.open? source tree = .error (.reported raised) ∨
          ∃ document root, Document.open? source tree = .ok document ∧
            document.FailsFirst settings root (.reported raised)) := by
  rw [transformTree]
  cases hopen : Document.open? source tree with
  | error failure =>
      simp only [Except.error.injEq, reduceCtorEq, false_and, exists_false, or_false,
        Failure.inFile_eq_reported]
      exact exists_congr fun raised => and_comm
  | ok document =>
      have hfails := fun raised => failure_eq_some_iff settings document (.reported raised)
      simp only [Document.transform_eq, Progress.outcome, Host.worked, reduceCtorEq,
        Except.ok.injEq, false_or, exists_and_left, exists_eq_left', ← hfails]
      cases hfailure : (compileRoots settings document.read document.roots).failure with
      | some failure =>
          simp only [Except.error.injEq, Failure.inFile_eq_reported, Option.some.injEq]
          exact exists_congr fun raised => and_comm
      | none =>
          simp only [reduceCtorEq, and_false, exists_false, iff_false]
          have hsilent := render_silent (Document.host.after document
            (compileRoots settings document.read document.roots).replacements)
          intro h
          generalize Document.render _ = code at h hsilent
          cases code with
          | error failure =>
              cases h
              cases hsilent
          | ok code => cases h

theorem inFile_eq_withFile {raised : Diagnostic} {file : Text}
    (h : raised.file = [] ∨ raised.file = file) : raised.inFile file = raised.withFile file := by
  rw [Diagnostic.inFile]
  split
  · rfl
  · rename_i hnamed
    rcases h with h | h
    · exact absurd (by simp [h]) hnamed
    · rw [Diagnostic.withFile, ← h]

/-- What opening or a root raises names the file, or none. -/
theorem raised_file {raised : Diagnostic}
    (h : Document.open? source tree = .error (.reported raised) ∨
      ∃ document root, Document.open? source tree = .ok document ∧
        document.FailsFirst settings root (.reported raised)) :
    raised.file = [] ∨ raised.file = source.file := by
  rcases h with hopen | ⟨document, root, hopen, before, after, -, -, hfails⟩
  · obtain ⟨_, heq, -, hfile⟩ := open?_unreadable hopen
    cases heq
    exact .inr hfile
  · obtain ⟨problem, file, position, rfl, hfile, -⟩ := raised_at_node hfails
    rwa [source_of_open? hopen] at hfile

theorem file_of_reported {diagnostic : Diagnostic}
    (h : transformTree settings source tree = .error (.reported diagnostic)) :
    diagnostic.file = source.file := by
  obtain ⟨raised, rfl, hraised⟩ := transformTree_reported.mp h
  rw [inFile_eq_withFile (raised_file hraised)]
  rfl

end Diagnostics

/-- A diagnostic that leaves the transformation of a file is the first one raised, in that file; if
it is about a construct, it has the position of a node in the first root that fails. -/
theorem reported_iff_raised (settings : Settings) (source : Source) (tree : SyntaxTree)
    (diagnostic : Diagnostic) :
    (transformTree settings source tree = .error (.reported diagnostic) ↔
      ∃ raised : Diagnostic, diagnostic = raised.withFile source.file ∧
        (Document.open? source tree = .error (.reported raised) ∨
          ∃ document root, Document.open? source tree = .ok document ∧
            document.FailsFirst settings root (.reported raised))) ∧
    (transformTree settings source tree = .error (.reported diagnostic) →
      diagnostic.problem.category = .unsupported →
      ∃ (document : Document) (root : Cursor) (failure : Failure) (node : Node),
        Document.open? source tree = .ok document ∧
        document.FailsFirst settings root failure ∧ node.Inside root.node ∧
        diagnostic.line = some (source.position node.start).line ∧
        diagnostic.column = some (source.position node.start).column) := by
  constructor
  · rw [transformTree_reported]
    refine exists_congr fun raised => ?_
    constructor
    · rintro ⟨rfl, hraised⟩
      exact ⟨inFile_eq_withFile (raised_file hraised), hraised⟩
    · rintro ⟨rfl, hraised⟩
      exact ⟨(inFile_eq_withFile (raised_file hraised)).symm, hraised⟩
  · intro h hcategory
    obtain ⟨raised, rfl, hraised⟩ := transformTree_reported.mp h
    rw [inFile_eq_withFile (raised_file hraised)] at hcategory ⊢
    rcases hraised with hopen | ⟨document, root, hopen, hfails⟩
    · obtain ⟨_, heq, hproblem, -⟩ := open?_unreadable hopen
      cases heq
      rw [Diagnostic.withFile, hproblem] at hcategory
      cases hcategory
    · obtain ⟨before, after, hroots, hbefore, hroot⟩ := hfails
      obtain ⟨problem, file, position, rfl, -, node, hinside, rfl⟩ := raised_at_node hroot
      rw [source_of_open? hopen]
      exact ⟨document, root, _, node, hopen, ⟨before, after, hroots, hbefore, hroot⟩, hinside,
        rfl, rfl⟩

/-- A program with a spread among the children of its second root. -/
def spreadChildren : Source :=
  .ofText ['<', 'b', '/', '>', '\n', '<', 'a', '>', '\x7b', '.', '.', '.', 'c', '\x7d', '<', '/',
    'a', '>'] ['f']

def spreadChildrenTree : SyntaxTree where
  root := {
    kind := .program
    start := 0
    stop := 18
    children := [
      tagNode 0 2,
      elementNode 5 18 (bracesNode 8 14 {
        kind := .spread
        start := 9
        stop := 13
        children := [tokenNode "..." 9 12, nameNode 12 13] })] }

theorem spreadChildren_reported :
    transformTree {} spreadChildren spreadChildrenTree =
      .error (.reported (.located .spreadChild ['f'] ⟨2, 8⟩)) ∧
    ∃ (document : Document) (root : Cursor) (failure : Failure) (node : Node),
      Document.open? spreadChildren spreadChildrenTree = .ok document ∧
      document.FailsFirst {} root failure ∧ node.Inside root.node ∧
      some 2 = some (spreadChildren.position node.start).line ∧
      some 8 = some (spreadChildren.position node.start).column := by
  have h : transformTree {} spreadChildren spreadChildrenTree =
      .error (.reported (.located .spreadChild ['f'] ⟨2, 8⟩)) := by with_unfolding_all rfl
  exact ⟨h, (reported_iff_raised {} spreadChildren spreadChildrenTree _).2 h rfl⟩

end TaggedMarkup
