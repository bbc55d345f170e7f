import TaggedMarkup.Proofs.Document.Hosts
import TaggedMarkup.Proofs.Element.Compiled
import TaggedMarkup.Proofs.Source.Outermost
import TaggedMarkup.Proofs.Text.Utf8

/-!
# Splicing

A program is transformed by putting printed templates in the place of its
roots.  If every root can be read and compiled, the new program has the bytes
of the old one outside the roots, once and in place, and between them the
printed templates.  Otherwise the first root that fails stops the work, and
there is no new program.
-/

namespace TaggedMarkup

/-! ## Compiling the roots -/

/-- What was replaced, and why it went no further if it did not. -/
structure Progress (α : Type) where
  replacements : List (Replacement α) := []
  failure : Option Failure := none

/-- What the roots become, up to the first that fails, if each can be read whatever was replaced
before it. -/
def compileRoots {α : Type} (settings : Settings) (read : α → Except Failure Tree) :
    List α → Progress α
  | [] => {}
  | root :: roots =>
    match compileRoot settings read root with
    | .error failure => { failure := some failure }
    | .ok replacement =>
      let rest := compileRoots settings read roots
      { rest with replacements := replacement :: rest.replacements }

/-- The number of replacements, `count` of them made before, or the failure. -/
def Progress.outcome {α : Type} (progress : Progress α) (count : Nat) : Except Failure Nat :=
  match progress.failure with
  | some failure => .error failure
  | none => .ok (count + progress.replacements.length)

theorem Progress.outcome_cons {α : Type} (replacement : Replacement α) (progress : Progress α)
    (count : Nat) :
    outcome { progress with replacements := replacement :: progress.replacements } count =
      progress.outcome (count + 1) := by
  obtain ⟨replacements, failure⟩ := progress
  cases failure with
  | some failure => rfl
  | none =>
      simp only [outcome, List.length_cons]
      congr 1
      omega

section Roots

variable {α : Type} {settings : Settings} {read : α → Except Failure Tree}

theorem compileRoot_of_ok {root : α} {template : Template}
    (h : (read root >>= compile settings) = .ok template) :
    ∃ position, compileRoot settings read root = .ok ⟨root, position, template⟩ := by
  obtain ⟨tree, htree, hcompile⟩ := exists_of_bind_eq_ok h
  exact ⟨tree.position, compileRoot_eq_ok htree hcompile⟩

theorem compileRoots_of_ok {roots : List α}
    (h : ∀ root ∈ roots, ∃ template, (read root >>= compile settings) = .ok template) :
    ∃ replacements : List (Replacement α),
      compileRoots settings read roots = ⟨replacements, none⟩ ∧
      replacements.map Replacement.root = roots ∧
      ∀ replacement ∈ replacements,
        (read replacement.root >>= compile settings) = .ok replacement.template := by
  induction roots with
  | nil => exact ⟨[], rfl, rfl, by simp⟩
  | cons root roots ih =>
      obtain ⟨template, htemplate⟩ := h root List.mem_cons_self
      obtain ⟨position, hfirst⟩ := compileRoot_of_ok htemplate
      obtain ⟨replacements, hrest, hroots, hcompiled⟩ :=
        ih fun other hother => h other (List.mem_cons_of_mem root hother)
      refine ⟨⟨root, position, template⟩ :: replacements, ?_, ?_, ?_⟩
      · rw [compileRoots, hfirst, hrest]
      · rw [List.map_cons, hroots]
      · intro replacement hmem
        rcases List.mem_cons.mp hmem with rfl | hmem
        · exact htemplate
        · exact hcompiled replacement hmem

theorem compileRoots_of_error {before : List α} {root : α} {after : List α} {failure : Failure}
    (hbefore : ∀ earlier ∈ before, ∃ template, (read earlier >>= compile settings) = .ok template)
    (hroot : (read root >>= compile settings) = .error failure) :
    (compileRoots settings read (before ++ root :: after)).failure = some failure := by
  induction before with
  | nil => rw [List.nil_append, compileRoots, compileRoot_of_error hroot]
  | cons first before ih =>
      obtain ⟨template, htemplate⟩ := hbefore first List.mem_cons_self
      obtain ⟨position, hfirst⟩ := compileRoot_of_ok htemplate
      rw [List.cons_append, compileRoots, hfirst]
      exact ih fun earlier hearlier => hbefore earlier (List.mem_cons_of_mem first hearlier)

theorem exists_first_error {roots : List α}
    (h : ∃ root ∈ roots, ∃ failure, (read root >>= compile settings) = .error failure) :
    ∃ before root after failure, roots = before ++ root :: after ∧
      (∀ earlier ∈ before, ∃ template, (read earlier >>= compile settings) = .ok template) ∧
      (read root >>= compile settings) = .error failure := by
  induction roots with
  | nil => simp at h
  | cons first roots ih =>
      cases hfirst : read first >>= compile settings with
      | error failure => exact ⟨[], first, roots, failure, rfl, by simp, hfirst⟩
      | ok template =>
          have hrest : ∃ root ∈ roots, ∃ failure,
              (read root >>= compile settings) = .error failure := by
            obtain ⟨root, hmem, failure, hfailure⟩ := h
            rcases List.mem_cons.mp hmem with rfl | hmem
            · rw [hfirst] at hfailure
              simp at hfailure
            · exact ⟨root, hmem, failure, hfailure⟩
          obtain ⟨before, root, after, failure, rfl, hbefore, hroot⟩ := ih hrest
          refine ⟨first :: before, root, after, failure, rfl, ?_, hroot⟩
          intro earlier hearlier
          rcases List.mem_cons.mp hearlier with rfl | hearlier
          · exact ⟨template, hfirst⟩
          · exact hbefore earlier hearlier

theorem compiled_of_no_failure {roots : List α}
    (h : (compileRoots settings read roots).failure = none) :
    ∀ root ∈ roots, ∃ template, (read root >>= compile settings) = .ok template := by
  intro root hmem
  cases hroot : read root >>= compile settings with
  | ok template => exact ⟨template, rfl⟩
  | error failure =>
      obtain ⟨before, other, after, failure, rfl, hbefore, hother⟩ :=
        exists_first_error ⟨root, hmem, failure, hroot⟩
      rw [compileRoots_of_error hbefore hother] at h
      cases h

end Roots

/-! ## Replacing the roots -/

def Replacement.edit (replacement : Replacement Cursor) : Edit :=
  ⟨replacement.root.node.start, replacement.root.node.stop, replacement.template⟩

@[simp] theorem Replacement.edit_start (replacement : Replacement Cursor) :
    replacement.edit.start = replacement.root.node.start := rfl

@[simp] theorem Replacement.edit_stop (replacement : Replacement Cursor) :
    replacement.edit.stop = replacement.root.node.stop := rfl

@[simp] theorem Replacement.edit_template (replacement : Replacement Cursor) :
    replacement.edit.template = replacement.template := rfl

theorem Document.after_eq (document : Document) (replacements : List (Replacement Cursor)) :
    host.after document replacements =
      { document with edits := document.edits ++ replacements.map Replacement.edit } := by
  induction replacements generalizing document with
  | nil => simp [Host.after]
  | cons replacement replacements ih =>
      have hstep : host.after document (replacement :: replacements) =
          host.after (document.replace replacement.root replacement.template) replacements := rfl
      rw [hstep, ih]
      simp [Document.replace, Replacement.edit]

/-- What was replaced does not change how the roots that are left are read. -/
theorem Document.replaceRoots_eq (settings : Settings) (roots : List Cursor)
    (work : Work Document) :
    host.replaceRoots settings roots work =
      ((compileRoots settings work.program.read roots).replacements.foldl host.apply work,
        (compileRoots settings work.program.read roots).outcome work.count) := by
  induction roots generalizing work with
  | nil => rfl
  | cons root roots ih =>
      have hread : host.read work.program = work.program.read := rfl
      rw [Host.replaceRoots, compileRoots, hread]
      cases compileRoot settings work.program.read root with
      | error failure => rfl
      | ok replacement =>
          have hcount := Progress.outcome_cons replacement
            (compileRoots settings work.program.read roots) work.count
          rw [hcount]
          exact ih (host.apply work replacement)

theorem Document.transform_eq (document : Document) (settings : Settings) :
    document.transform settings =
      (host.worked document (compileRoots settings document.read document.roots).replacements,
        (compileRoots settings document.read document.roots).outcome 0) := by
  rw [transform, Host.transform, replaceRoots_eq, Host.foldl_apply]
  simp only [List.nil_append, Nat.zero_add]
  rfl

/-- Some bytes from `start` on, with texts in the place of the roots. -/
def replaced (bytes : List UInt8) (start : Nat) : List (Cursor × Text) → List UInt8
  | [] => bytes.drop start
  | (root, text) :: others =>
    (bytes.take root.node.start).drop start ++ Utf8.encode text ++
      replaced bytes root.node.stop others

/-- Both ends of a node are between characters of the text. -/
def Node.Aligned (code : Text) (node : Node) : Prop :=
  Utf8.IsBoundary code node.start ∧ Utf8.IsBoundary code node.stop

instance (code : Text) (node : Node) : Decidable (node.Aligned code) :=
  inferInstanceAs (Decidable (Utf8.IsBoundary code node.start ∧ Utf8.IsBoundary code node.stop))

theorem Source.slice_ofText {code : Text} {start stop : Nat} (file : Text)
    (hstart : Utf8.IsBoundary code start) (hstop : Utf8.IsBoundary code stop) :
    ∃ part, (Source.ofText code file).slice start stop = .ok part ∧
      Utf8.encode part = ((Utf8.encode code).take stop).drop start := by
  obtain ⟨part, hpart⟩ := hstart.between hstop
  refine ⟨part, ?_, hpart⟩
  rw [Source.slice, Source.ofText, ← hpart, Utf8.decode_encode]

theorem Source.slice_eq_ok {source : Source} {start stop : Nat} {text : Text}
    (h : source.slice start stop = .ok text) :
    Utf8.encode text = (source.bytes.take stop).drop start := by
  rw [Source.slice] at h
  cases hdecode : Utf8.decode ((source.bytes.take stop).drop start) with
  | error error =>
      rw [hdecode] at h
      cases h
  | ok part =>
      rw [hdecode] at h
      cases h
      exact Utf8.decode_eq_ok_iff.mp hdecode

theorem splice_ofText {code : Text} (file : Text) {start : Nat}
    (hstart : Utf8.IsBoundary code start) {replacements : List (Replacement Cursor)}
    (haligned : ∀ replacement ∈ replacements, replacement.root.node.Aligned code)
    (hprints : ∀ replacement ∈ replacements,
      replacement.template.print? = some replacement.template.render) :
    ∃ text, Document.splice (.ofText code file) start (replacements.map Replacement.edit) =
        .ok text ∧
      Utf8.encode text = replaced (Utf8.encode code) start
        (replacements.map fun replacement =>
          (replacement.root, replacement.template.render)) := by
  induction replacements generalizing start with
  | nil =>
      obtain ⟨part, hslice, hpart⟩ :=
        Source.slice_ofText file hstart (Utf8.isBoundary_length code)
      refine ⟨part, hslice, ?_⟩
      rw [hpart, List.take_length, List.map_nil, replaced]
  | cons replacement replacements ih =>
      obtain ⟨hroot, hend⟩ := haligned replacement List.mem_cons_self
      obtain ⟨before, hslice, hbefore⟩ := Source.slice_ofText file hstart hroot
      obtain ⟨after, hsplice, hafter⟩ := ih hend
        (fun other hmem => haligned other (List.mem_cons_of_mem replacement hmem))
        (fun other hmem => hprints other (List.mem_cons_of_mem replacement hmem))
      have hprint := hprints replacement List.mem_cons_self
      refine ⟨before ++ replacement.template.render ++ after, ?_, ?_⟩
      · simp only [List.map_cons, Document.splice, Replacement.edit_start,
          Replacement.edit_stop, Replacement.edit_template, hslice, hprint, hsplice]
        rfl
      · rw [Utf8.encode_append, Utf8.encode_append, hbefore, hafter, List.map_cons, replaced]

/-! ## Programs -/

/-- What a parser promises of the tree of a program: it has no fault, its ranges are nested, and
they begin and end between characters. -/
structure SyntaxTree.ParsedFrom (tree : SyntaxTree) (code : Text) : Prop where
  readable : tree.hasFault = false
  nested : tree.root.WellFormed
  aligned : tree.root.All (Node.Aligned code)

/-- A root can be read and compiled, and its template is printed as the text. -/
def Document.Prints (document : Document) (settings : Settings) (root : Cursor) (text : Text) :
    Prop :=
  ∃ tree template, document.read root = .ok tree ∧ compile settings tree = .ok template ∧
    template.print? = some text

theorem Document.prints_of_ok {document : Document} {settings : Settings} {root : Cursor}
    {template : Template} (h : (document.read root >>= compile settings) = .ok template) :
    document.Prints settings root template.render := by
  obtain ⟨tree, htree, hcompile⟩ := exists_of_bind_eq_ok h
  exact ⟨tree, template, htree, hcompile, print?_of_compile hcompile⟩

theorem Document.roots_ordered {document : Document} {code : Text}
    (htree : document.tree.ParsedFrom code) : Ordered document.roots :=
  (Node.trees_within none document.tree.root htree.nested).2

theorem Document.roots_aligned {document : Document} {code : Text}
    (htree : document.tree.ParsedFrom code) :
    ∀ root ∈ document.roots, root.node.Aligned code := by
  intro root hmem
  exact (Node.all_iff.mp (htree.aligned.of_mem_trees none _ root hmem)).1

/-- The edits of the roots are made in their order, so sorting them changes nothing. -/
theorem mergeSort_edits {document : Document} {code : Text}
    (htree : document.tree.ParsedFrom code) {replacements : List (Replacement Cursor)}
    (hroots : replacements.map Replacement.root = document.roots) :
    (replacements.map Replacement.edit).mergeSort (fun a b => decide (a.start ≤ b.start)) =
      replacements.map Replacement.edit := by
  have hwithin : ∀ root ∈ document.roots, root.node.start ≤ root.node.stop := by
    intro root hmem
    exact ((Node.trees_within none document.tree.root htree.nested).1 root hmem).2.1
  have hordered : Ordered document.roots := Document.roots_ordered htree
  rw [← hroots] at hwithin hordered
  apply List.mergeSort_of_pairwise
  rw [List.pairwise_map]
  refine (List.pairwise_map.mp hordered).imp_of_mem ?_
  intro first second hfirst _ happart
  have := hwithin first.root (List.mem_map_of_mem hfirst)
  exact decide_eq_true (Nat.le_trans this happart)

def Document.parsed (code file : Text) (tree : SyntaxTree) : Document :=
  { source := .ofText code file, tree }

section Parsed

variable {settings : Settings} {code file : Text} {tree : SyntaxTree}

theorem open?_readable (hreadable : tree.hasFault = false) :
    Document.open? (.ofText code file) tree = .ok (.parsed code file tree) := by
  rw [Document.open?, hreadable]
  rfl

theorem open?_parsed (htree : tree.ParsedFrom code) :
    Document.open? (.ofText code file) tree = .ok (.parsed code file tree) :=
  open?_readable htree.readable

theorem render_replacements (htree : tree.ParsedFrom code)
    {replacements : List (Replacement Cursor)}
    (hroots : replacements.map Replacement.root = (Document.parsed code file tree).roots) :
    (Document.host.after (.parsed code file tree) replacements).render =
      Document.splice (.ofText code file) 0 (replacements.map Replacement.edit) := by
  rw [Document.after_eq, Document.render]
  simp only [Document.parsed, List.nil_append]
  rw [mergeSort_edits htree hroots]

theorem transformTree_of_ok (htree : tree.ParsedFrom code)
    (hroots : ∀ root ∈ (Document.parsed code file tree).roots, ∃ template,
      ((Document.parsed code file tree).read root >>= compile settings) = .ok template) :
    ∃ result replacements,
      transformTree settings (.ofText code file) tree = .ok result ∧
      result.templates = replacements.length ∧
      replacements.map Prod.fst = (Document.parsed code file tree).roots ∧
      (∀ replacement ∈ replacements,
        (Document.parsed code file tree).Prints settings replacement.1 replacement.2) ∧
      Utf8.encode result.code = replaced (Utf8.encode code) 0 replacements := by
  obtain ⟨replacements, hcompile, hsame, hcompiled⟩ := compileRoots_of_ok hroots
  have haligned : ∀ replacement ∈ replacements, replacement.root.node.Aligned code := by
    intro replacement hmem
    have hroot := List.mem_map_of_mem (f := Replacement.root) hmem
    rw [hsame] at hroot
    exact Document.roots_aligned htree replacement.root hroot
  have hprints : ∀ replacement ∈ replacements,
      replacement.template.print? = some replacement.template.render := by
    intro replacement hmem
    obtain ⟨inner, -, hinner⟩ := exists_of_bind_eq_ok (hcompiled replacement hmem)
    exact print?_of_compile hinner
  obtain ⟨text, hsplice, htext⟩ :=
    splice_ofText file (Utf8.isBoundary_zero code) haligned hprints
  rw [← render_replacements htree hsame] at hsplice
  refine ⟨⟨text, replacements.length, replacements.map Replacement.record ++
      finishingRecords file replacements.length⟩,
    replacements.map fun replacement => (replacement.root, replacement.template.render),
    ?_, ?_, ?_, ?_, htext⟩
  · rw [transformTree, open?_parsed htree]
    simp only [Document.transform_eq, hcompile, Progress.outcome, Nat.zero_add, Host.worked,
      hsplice]
    rfl
  · rw [List.length_map]
  · rw [List.map_map, ← hsame]
    rfl
  · intro pair hpair
    obtain ⟨replacement, hmem, rfl⟩ := List.mem_map.mp hpair
    exact Document.prints_of_ok (hcompiled replacement hmem)

theorem transformTree_of_error (htree : tree.ParsedFrom code) {before : List Cursor}
    {root : Cursor} {after : List Cursor} {failure : Failure}
    (hroots : (Document.parsed code file tree).roots = before ++ root :: after)
    (hbefore : ∀ earlier ∈ before, ∃ template,
      ((Document.parsed code file tree).read earlier >>= compile settings) = .ok template)
    (hroot : ((Document.parsed code file tree).read root >>= compile settings) =
      .error failure) :
    transformTree settings (.ofText code file) tree = .error (failure.inFile file) := by
  rw [transformTree, open?_parsed htree]
  simp only [Document.transform_eq, Progress.outcome, hroots,
    compileRoots_of_error hbefore hroot]
  rfl

end Parsed

/-- If every root of a program can be read and compiled, the new program is the old one with the
printed templates in the place of the roots; otherwise the first root that fails is reported. -/
theorem transformTree_splices (settings : Settings) (code file : Text) (tree : SyntaxTree)
    (htree : tree.ParsedFrom code) :
    let document := Document.parsed code file tree
    Ordered document.roots ∧
    ((∀ root ∈ document.roots, ∃ template,
        (document.read root >>= compile settings) = .ok template) →
      ∃ result replacements,
        transformTree settings (.ofText code file) tree = .ok result ∧
        result.templates = document.roots.length ∧
        replacements.map Prod.fst = document.roots ∧
        (∀ replacement ∈ replacements,
          document.Prints settings replacement.1 replacement.2) ∧
        Utf8.encode result.code = replaced (Utf8.encode code) 0 replacements ∧
        (document.roots = [] → result.code = code)) ∧
    ((∃ root ∈ document.roots, ∃ failure,
        (document.read root >>= compile settings) = .error failure) →
      ∃ before root after failure, document.roots = before ++ root :: after ∧
        (∀ earlier ∈ before, ∃ template,
          (document.read earlier >>= compile settings) = .ok template) ∧
        (document.read root >>= compile settings) = .error failure ∧
        transformTree settings (.ofText code file) tree = .error (failure.inFile file)) := by
  intro document
  refine ⟨Document.roots_ordered htree, ?_, ?_⟩
  · intro hroots
    obtain ⟨result, replacements, hresult, htemplates, hsame, hprints, hcode⟩ :=
      transformTree_of_ok htree hroots
    refine ⟨result, replacements, hresult, ?_, hsame, hprints, hcode, ?_⟩
    · rw [htemplates, ← hsame, List.length_map]
    · intro hnone
      rw [hnone, List.map_eq_nil_iff] at hsame
      rw [hsame, replaced, List.drop_zero] at hcode
      exact Utf8.encode_injective hcode
  · intro hfails
    obtain ⟨before, root, after, failure, hsplit, hbefore, hroot⟩ := exists_first_error hfails
    exact ⟨before, root, after, failure, hsplit, hbefore, hroot,
      transformTree_of_error htree hsplit hbefore hroot⟩

/-- An element without attributes and children, its name standing between two offsets. -/
def tagNode (start nameStop : Nat) : Node where
  kind := .selfClosing
  start := start
  stop := nameStop + 2
  children := [
    { kind := .other "<", start := start, stop := start + 1, named := false },
    { kind := .other "identifier", start := start + 1, stop := nameStop, field := some .name },
    { kind := .other "/>", start := nameStop, stop := nameStop + 2, named := false }]

/-- A program with a character of two bytes before its only root. -/
def accented : Text :=
  ['é', '=', '<', 'a', '/', '>', ';']

def accentedTree : SyntaxTree where
  root := {
    kind := .program
    start := 0
    stop := 8
    children := [
      { kind := .other "identifier", start := 0, stop := 2 },
      { kind := .other "=", start := 2, stop := 3, named := false },
      tagNode 3 5,
      { kind := .other ";", start := 7, stop := 8, named := false }] }

/-- A program of two roots, the second with a name that no template can have. -/
def namespaced : Text :=
  ['<', 'a', '/', '>', '<', 'b', ':', 'c', '/', '>']

def namespacedTree : SyntaxTree where
  root := { kind := .program, start := 0, stop := 10, children := [tagNode 0 2, tagNode 4 8] }

theorem accentedTree_parsedFrom : accentedTree.ParsedFrom accented where
  readable := by decide
  nested := by
    simp only [accentedTree, tagNode, Node.WellFormed, Node.All, AllIn]
    decide
  aligned := by
    simp only [accentedTree, tagNode, Node.All, AllIn, Node.Aligned]
    decide

theorem namespacedTree_parsedFrom : namespacedTree.ParsedFrom namespaced where
  readable := by decide
  nested := by
    simp only [namespacedTree, tagNode, Node.WellFormed, Node.All, AllIn]
    decide
  aligned := by
    simp only [namespacedTree, tagNode, Node.All, AllIn, Node.Aligned]
    decide

theorem transformTree_accented :
    (∃ result, transformTree {} (.ofText accented []) accentedTree = .ok result ∧
      result.templates = 1 ∧
      result.code = ['é', '=', 'h', 't', 'm', 'l', '\x60', '<', 'a', '/', '>', '\x60', ';']) ∧
    transformTree {} (.ofText namespaced []) namespacedTree =
      .error (.reported (.located (.namespacedTag ['b', ':', 'c']) [] ⟨1, 6⟩)) := by
  constructor
  · have hroots : (Document.parsed accented [] accentedTree).roots =
        [⟨tagNode 3 5, some (.other "=")⟩] := rfl
    have hread : (Document.parsed accented [] accentedTree).read
        ⟨tagNode 3 5, some (.other "=")⟩ =
          .ok (.element { name := .static ['a'], position := ⟨1, 4⟩ }) := by
      with_unfolding_all rfl
    have hcompile : compile {} (.element { name := .static ['a'], position := ⟨1, 4⟩ }) =
        .ok ⟨['h', 't', 'm', 'l'], [['<', 'a', '/', '>']], []⟩ := rfl
    obtain ⟨-, hsucceeds, -⟩ := transformTree_splices {} accented [] accentedTree
      accentedTree_parsedFrom
    obtain ⟨result, replacements, hresult, htemplates, hsame, hprints, hcode, -⟩ :=
      hsucceeds (by
        rw [hroots]
        intro root hmem
        rw [List.mem_singleton.mp hmem, hread]
        exact ⟨_, hcompile⟩)
    refine ⟨result, hresult, ?_, ?_⟩
    · rw [htemplates, hroots]
      rfl
    · rw [hroots] at hsame
      obtain ⟨⟨root, text⟩, rfl, hroot⟩ := List.map_eq_singleton_iff.mp hsame
      obtain ⟨tree, template, htree, htemplate, htext⟩ :=
        hprints (root, text) List.mem_cons_self
      simp only at hroot htree
      subst hroot
      rw [hread] at htree
      cases htree
      rw [hcompile] at htemplate
      cases htemplate
      cases htext
      apply Utf8.encode_injective
      rw [hcode]
      decide
  · have hroots : (Document.parsed namespaced [] namespacedTree).roots =
        [⟨tagNode 0 2, none⟩, ⟨tagNode 4 8, some .selfClosing⟩] := rfl
    have hfirst : ∃ template, ((Document.parsed namespaced [] namespacedTree).read
        ⟨tagNode 0 2, none⟩ >>= compile {}) = .ok template := ⟨_, by with_unfolding_all rfl⟩
    have hsecond : ((Document.parsed namespaced [] namespacedTree).read
        ⟨tagNode 4 8, some .selfClosing⟩ >>= compile {}) =
          .error (.reported (.located (.namespacedTag ['b', ':', 'c']) [] ⟨1, 6⟩)) := by
      with_unfolding_all rfl
    obtain ⟨-, -, hfails⟩ := transformTree_splices {} namespaced [] namespacedTree
      namespacedTree_parsedFrom
    obtain ⟨before, root, after, failure, hsplit, hbefore, hroot, hresult⟩ :=
      hfails ⟨⟨tagNode 4 8, some .selfClosing⟩, by simp [hroots], _, hsecond⟩
    rw [hroots] at hsplit
    -- the first root can be compiled, so the one that fails is the second
    cases before with
    | nil =>
        simp only [List.nil_append, List.cons.injEq] at hsplit
        obtain ⟨template, htemplate⟩ := hfirst
        rw [← hsplit.1, htemplate] at hroot
        cases hroot
    | cons first before =>
        cases before with
        | nil =>
            simp only [List.cons_append, List.nil_append, List.cons.injEq] at hsplit
            rw [← hsplit.2.1, hsecond] at hroot
            cases hroot
            exact hresult
        | cons second before => simp at hsplit

end TaggedMarkup
