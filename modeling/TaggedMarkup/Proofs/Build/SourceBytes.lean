import TaggedMarkup.Proofs.Build.Targets
import TaggedMarkup.Proofs.Document.Session
import TaggedMarkup.Proofs.Text.LineEnds

/-!
# What a build keeps of a source

A build reads the bytes of a source as text and folds its line ends before it
looks for roots.  What it writes has the templates in the place of the roots,
and outside of them the bytes of the source with folded line ends.  These are
the bytes of the source itself exactly if there is no carriage return outside
of the roots.
-/

namespace TaggedMarkup

/-! ## Outside of the roots -/

/-- A root of a program, with the range it had in the bytes before their line ends were folded. -/
def Cursor.original (bytes : List UInt8) (root : Cursor) : Cursor :=
  { root with
    node := { root.node with
      start := originalOffset bytes root.node.start
      stop := originalOffset bytes root.node.stop } }

def inOriginal (bytes : List UInt8) (placed : List (Cursor × Text)) : List (Cursor × Text) :=
  placed.map fun replacement => (replacement.1.original bytes, replacement.2)

/-- The bytes from `start` on that no text takes the place of. -/
def outside (bytes : List UInt8) (start : Nat) (placed : List (Cursor × Text)) : List UInt8 :=
  replaced bytes start (placed.map fun replacement => (replacement.1, []))

section Fold

variable (bytes : List UInt8)

theorem replaced_foldBytes_cons (start : Nat) (root : Cursor) (text : Text)
    (placed : List (Cursor × Text)) :
    replaced (foldBytes bytes) start ((root, text) :: placed) =
      foldBytes ((bytes.take (originalOffset bytes root.node.start)).drop
        (originalOffset bytes start)) ++ Utf8.encode text ++
        replaced (foldBytes bytes) root.node.stop placed := by
  rw [replaced, slice_foldBytes]

theorem length_replaced_foldBytes_le (start : Nat) (placed : List (Cursor × Text)) :
    (replaced (foldBytes bytes) start placed).length ≤
      (replaced bytes (originalOffset bytes start) (inOriginal bytes placed)).length := by
  induction placed generalizing start with
  | nil =>
      rw [replaced, drop_foldBytes]
      exact length_foldBytes_le _
  | cons replacement placed ih =>
      obtain ⟨root, text⟩ := replacement
      have hgap := length_foldBytes_le ((bytes.take (originalOffset bytes root.node.start)).drop
        (originalOffset bytes start))
      have hrest := ih root.node.stop
      rw [replaced_foldBytes_cons]
      simp only [inOriginal, List.map_cons, replaced, Cursor.original,
        List.length_append] at hrest ⊢
      omega

/-- With folded line ends, the bytes outside of the roots are what they were exactly if there is no
carriage return among them. -/
theorem replaced_foldBytes_eq_iff (start : Nat) (placed : List (Cursor × Text)) :
    replaced (foldBytes bytes) start placed =
        replaced bytes (originalOffset bytes start) (inOriginal bytes placed) ↔
      13 ∉ outside bytes (originalOffset bytes start) (inOriginal bytes placed) := by
  induction placed generalizing start with
  | nil =>
      rw [replaced, drop_foldBytes]
      exact foldBytes_eq_self_iff
  | cons replacement placed ih =>
      obtain ⟨root, text⟩ := replacement
      let gap := (bytes.take (originalOffset bytes root.node.start)).drop
        (originalOffset bytes start)
      let rest := replaced bytes (originalOffset bytes root.node.stop) (inOriginal bytes placed)
      have hfolded : replaced (foldBytes bytes) start ((root, text) :: placed) =
          foldBytes gap ++ Utf8.encode text ++ replaced (foldBytes bytes) root.node.stop placed :=
        replaced_foldBytes_cons bytes start root text placed
      have hwhole : replaced bytes (originalOffset bytes start)
          (inOriginal bytes ((root, text) :: placed)) = gap ++ Utf8.encode text ++ rest := rfl
      have houtside : outside bytes (originalOffset bytes start)
          (inOriginal bytes ((root, text) :: placed)) = gap ++
            outside bytes (originalOffset bytes root.node.stop) (inOriginal bytes placed) := by
        simp [outside, inOriginal, replaced, Cursor.original, gap]
      have hgap : (foldBytes gap).length ≤ gap.length := length_foldBytes_le gap
      have hrest : (replaced (foldBytes bytes) root.node.stop placed).length ≤ rest.length :=
        length_replaced_foldBytes_le bytes root.node.stop placed
      rw [hfolded, hwhole, houtside, List.mem_append, not_or, ← ih,
        ← foldBytes_eq_self_iff]
      constructor
      · intro heq
        -- no part is longer than it was, so none is shorter
        have hlength := congrArg List.length heq
        simp only [List.length_append] at hlength
        obtain ⟨hbefore, hafter⟩ := List.append_inj heq (by simp only [List.length_append]; omega)
        exact ⟨List.append_cancel_right hbefore, hafter⟩
      · rintro ⟨hbefore, hafter⟩
        rw [hbefore, hafter]

end Fold

/-! ## Programs -/

/-- The roots of a program, in the order in which they begin, each with its printed template. -/
structure Document.Places (document : Document) (settings : Settings)
    (placed : List (Cursor × Text)) : Prop where
  roots : (placed.map Prod.fst).Perm document.roots
  ordered : placed.Pairwise fun first second => first.1.node.start ≤ second.1.node.start
  prints : ∀ replacement ∈ placed, document.Prints settings replacement.1 replacement.2

/-- A program that was transformed has the templates of its roots in their place, whatever its tree
is. -/
theorem transformTree_places {settings : Settings} {code file : Text} {tree : SyntaxTree}
    {result : Transformed}
    (h : transformTree settings (.ofText code file) tree = .ok result) :
    ∃ placed, (Document.parsed code file tree).Places settings placed ∧
      result.templates = placed.length ∧
      Utf8.encode result.code = replaced (Utf8.encode code) 0 placed := by
  obtain ⟨replacements, hsame, hcompiled, htemplates, hrender⟩ := transformTree_replaces h
  let made := replacements.map fun replacement => (replacement.root, replacement.template)
  have hedits : replacements.map Replacement.edit = made.map editOf := by
    rw [List.map_map]
    rfl
  have hsplice : Document.splice (.ofText code file) 0 ((inPlace made).map editOf) =
      .ok result.code := by
    rw [← map_inPlace, ← hedits, ← hrender]
    simp [Document.after_eq, Document.render, Document.parsed]
  obtain ⟨-, hbytes⟩ := Document.splice_eq_ok hsplice
  refine ⟨_, ⟨?_, ?_, ?_⟩, ?_, hbytes⟩
  · have hroots : made.map Prod.fst = (Document.parsed code file tree).roots := by
      rw [← hsame, List.map_map]
      rfl
    rw [List.map_map, ← hroots]
    exact (perm_inPlace made).map Prod.fst
  · rw [List.pairwise_map]
    exact ordered_inPlace made
  · intro pair hpair
    obtain ⟨replacement, hmem, rfl⟩ := List.mem_map.mp hpair
    obtain ⟨compiled, hmade, rfl⟩ := List.mem_map.mp ((perm_inPlace made).mem_iff.mp hmem)
    exact Document.prints_of_ok (hcompiled compiled hmade)
  · rw [htemplates, List.length_map, (perm_inPlace made).length_eq, List.length_map]

theorem transformTree_of_no_roots (settings : Settings) {code file : Text} {tree : SyntaxTree}
    (hreadable : tree.hasFault = false) (hroots : (Document.parsed code file tree).roots = []) :
    transformTree settings (.ofText code file) tree = .ok ⟨code, 0, []⟩ := by
  have hrender : (Document.parsed code file tree).render = .ok code := by
    simp [Document.render, Document.parsed, Document.splice, Source.slice, Source.ofText]
  rw [transformTree, open?_readable hreadable]
  simp only [Document.transform_eq, hroots, compileRoots, Progress.outcome, Host.worked]
  change ((Document.parsed code file tree).render >>= _) = _
  rw [hrender]
  rfl

/-! ## Sources -/

theorem encode_of_readText {bytes : List UInt8} {code : Text} (h : readText bytes = .ok code) :
    Utf8.encode code = foldBytes bytes := by
  rw [readText] at h
  cases hdecode : Utf8.decode bytes with
  | error error =>
      rw [hdecode] at h
      cases h
  | ok text =>
      rw [hdecode] at h
      cases h
      rw [encode_foldLineEnds, Utf8.decode_eq_ok_iff.mp hdecode]

def SourceFile.document (parse : Text → SyntaxTree) (file : SourceFile) (code : Text) : Document :=
  .parsed code (Path.join file.path) (parse code)

section Emit

variable {parse : Text → SyntaxTree} {options : EmitOptions} {file : SourceFile} {code : Text}
  {emitted : Emitted}

theorem emit_of_no_roots (hcode : readText file.bytes = .ok code)
    (hreadable : (parse code).hasFault = false) (hroots : (file.document parse code).roots = []) :
    file.emit (.plain parse) options = .ok ⟨code, 0⟩ := by
  have hresult : transform (.plain parse) options.settings (Path.join file.path) code =
      .ok ⟨code, 0, []⟩ := transformTree_of_no_roots options.settings hreadable hroots
  refine emitBytes_eq_ok.mpr ⟨code, hcode, emit_eq_ok.mpr
    ⟨Platform.encodable_plain parse code, _, hresult, ?_⟩⟩
  simp [Transformed.emit]

/-- What is written for a source.  If no tag is imported, this is the text of the source with the
templates in the place of its roots, and its bytes with them exactly if there is no carriage
return outside of the roots. -/
theorem emit_places (h : file.emit (.plain parse) options = .ok emitted) :
    ∃ code placed, readText file.bytes = .ok code ∧
      (file.document parse code).Places options.settings placed ∧
      (placed = [] ∨ options.moduleName = [] →
        Utf8.encode emitted.code = replaced (Utf8.encode code) 0 placed ∧
        (Utf8.encode emitted.code = replaced file.bytes 0 (inOriginal file.bytes placed) ↔
          13 ∉ outside file.bytes 0 (inOriginal file.bytes placed))) := by
  obtain ⟨code, hcode, htext⟩ := emitBytes_eq_ok.mp h
  obtain ⟨-, result, hresult, hemit⟩ := emit_eq_ok.mp htext
  obtain ⟨placed, hplaces, htemplates, hbytes⟩ := transformTree_places hresult
  refine ⟨code, placed, hcode, hplaces, fun hplain => ?_⟩
  have hnone : result.templates = 0 ∨ options.moduleName = [] := by
    rwa [htemplates, List.length_eq_zero_iff]
  rw [Transformed.emit, if_pos hnone] at hemit
  cases hemit
  refine ⟨hbytes, ?_⟩
  rw [hbytes, encode_of_readText hcode]
  have hkept := replaced_foldBytes_eq_iff file.bytes 0 placed
  rwa [originalOffset_zero] at hkept

end Emit

/-! ## Builds -/

/-- What a build has written, however it ended: the outputs of the first sources, and of all if it
ended well and did not remove them. -/
structure Writes (platform : Platform) (options : EmitOptions) (source output : Path)
    (tree : FileTree) (built : Built) (results : List (SourceFile × Emitted)) : Prop where
  emits : Emits platform options results
  first : results.map Prod.fst = (tree.sources source).take built.files
  all : built.error = none → ¬ output <+: source →
    ∀ file : SourceFile, file.Eligible tree source → file ∈ results.map Prod.fst
  holds : results ≠ [] → HoldsOutputs built.tree output results

section Writes

variable {parse : Text → SyntaxTree} {options : EmitOptions} {source output : Path}
  {tree : FileTree}

theorem writes_nothing {platform : Platform} {built : Built} (hfiles : built.files = 0)
    (hended : built.error = none → output <+: source) :
    Writes platform options source output tree built [] where
  emits := by simp [Emits]
  first := by rw [hfiles, List.take_zero, List.map_nil]
  all hnone habove := absurd (hended hnone) habove
  holds hsome := absurd rfl hsome

/-- A source that ends the build is not counted, and no file of those before is lost. -/
theorem buildFile_stops {file : SourceFile} {next : Built}
    {results : List (SourceFile × Emitted)} (hfine : next.error = none)
    (hholds : HoldsOutputs next.tree output results)
    (hstops : (buildFile (.plain parse) options output file next).error ≠ none) :
    (buildFile (.plain parse) options output file next).files = next.files ∧
      HoldsOutputs (buildFile (.plain parse) options output file next).tree output results := by
  rcases buildFile_cases (.plain parse) options output file next with
    ⟨emitted, made, -, -, -, hnext⟩ | ⟨emitted, made, error, -, -, hlost, -⟩ |
    ⟨error, tree, hnext, rfl | hmade, -⟩
  · rw [hnext] at hstops
    exact absurd hfine hstops
  · exact absurd (Platform.encodable_plain parse emitted.code) hlost
  · rw [hnext]
    exact ⟨rfl, hholds⟩
  · rw [hnext]
    exact ⟨rfl, hholds.makeDirectories hmade⟩

theorem buildBetween_writes (htree : tree.Consistent) :
    ∃ results, Writes (.plain parse) options source output tree
      (buildBetween (.plain parse) options source output tree) results := by
  rw [buildBetween]
  split
  · exact ⟨[], writes_nothing rfl fun h => (Option.some_ne_none _ h).elim⟩
  · rename_i hapart
    rw [List.isPrefixOf_iff_prefix] at hapart
    cases hrenewed : tree.renewDirectory output with
    | error error => exact ⟨[], writes_nothing rfl fun h => (Option.some_ne_none _ h).elim⟩
    | ok renewed =>
        dsimp only
        by_cases habove : output <+: source
        · have hne : output ≠ source := by
            rintro rfl
            exact hapart habove
          rw [sources_of_renewed htree habove hne hrenewed, buildFiles]
          exact ⟨[], writes_nothing rfl fun _ => habove⟩
        · obtain ⟨hkeyed, hself, hbelow, -⟩ := FileTree.renewed_of_ok htree hrenewed
          have hsource : source ≠ [] := by
            rintro rfl
            exact hapart List.nil_prefix
          have hsources := sources_of_renewed_apart htree hapart habove hrenewed
          have hfresh : ({ tree := renewed } : Built).error = none := rfl
          obtain ⟨results, next, ⟨hemits, hfine, hfiles, -⟩, -, hholds, hends⟩ :=
            buildFiles_writes (.plain parse) options hfresh hkeyed (holdsOutputs_nil hself hbelow)
              fun file hmem => target_ne_nil hkeyed hsource hmem
          rw [Nat.zero_add] at hfiles
          rw [hsources] at hends ⊢
          rcases hends with ⟨hall, hdone⟩ | ⟨file, later, hsplit, hstopped, hstops⟩
          · rw [hdone]
            refine ⟨results, hemits, ?_, ?_, fun _ => hholds⟩
            · rw [hfiles, ← hall, ← List.length_map Prod.fst, List.take_length]
            · intro _ _ file hfile
              rw [hall, mem_sources htree.keyed hsource]
              exact hfile
          · obtain ⟨hcount, hkept⟩ := buildFile_stops hfine hholds hstops
            rw [hstopped]
            refine ⟨results, hemits, ?_, fun herror => absurd herror hstops, fun _ => hkept⟩
            rw [hcount, hfiles, hsplit, ← List.length_map Prod.fst, List.take_left]

end Writes

/-- A source that can be read and has no roots is written out.  Of the sources that a build writes
out, one without roots is written as it is exactly if there is no carriage return in it.  If no
tag is imported, the bytes outside of the roots are written as they are exactly if there is no
carriage return among them; otherwise they are written with folded line ends. -/
theorem source_bytes_kept_iff (parse : Text → SyntaxTree) (options : EmitOptions)
    (workingDirectory : Path) (source output : Text) (tree : FileTree) (htree : tree.Consistent) :
    let sourcePath := Path.resolve workingDirectory source
    let outputPath := Path.resolve workingDirectory output
    let built := build (.plain parse) options workingDirectory source output tree
    (∀ (file : SourceFile) (code : Text), readText file.bytes = .ok code →
      (parse code).hasFault = false → (file.document parse code).roots = [] →
      file.emit (.plain parse) options = .ok ⟨code, 0⟩) ∧
    ∃ results, Writes (.plain parse) options sourcePath outputPath tree built results ∧
      ∀ file emitted, (file, emitted) ∈ results → ∃ code placed,
        readText file.bytes = .ok code ∧
        (file.document parse code).Places options.settings placed ∧
        ((file.document parse code).roots = [] →
          (Utf8.encode emitted.code = file.bytes ↔ 13 ∉ file.bytes)) ∧
        ((file.document parse code).roots = [] ∨ options.moduleName = [] →
          Utf8.encode emitted.code = replaced (Utf8.encode code) 0 placed ∧
          (Utf8.encode emitted.code = replaced file.bytes 0 (inOriginal file.bytes placed) ↔
            13 ∉ outside file.bytes 0 (inOriginal file.bytes placed))) := by
  intro sourcePath outputPath built
  refine ⟨fun file code => emit_of_no_roots, ?_⟩
  have hwrites : ∃ results,
      Writes (.plain parse) options sourcePath outputPath tree built results := by
    by_cases hfound : tree.find? workingDirectory (Path.tidy source) = some .directory
    · have hbuilt : built = buildBetween (.plain parse) options sourcePath outputPath tree :=
        if_pos hfound
      rw [hbuilt]
      exact buildBetween_writes htree
    · have hbuilt : built = { tree, error := some (.noSource (Path.tidy source)) } := if_neg hfound
      rw [hbuilt]
      exact ⟨[], writes_nothing rfl fun h => (Option.some_ne_none _ h).elim⟩
  obtain ⟨results, hresults⟩ := hwrites
  refine ⟨results, hresults, fun file emitted hmem => ?_⟩
  obtain ⟨code, placed, hcode, hplaces, hkept⟩ := emit_places (hresults.emits _ hmem)
  have hnone : (file.document parse code).roots = [] → placed = [] := by
    intro hroots
    have hperm := hplaces.roots
    rw [hroots, List.perm_nil, List.map_eq_nil_iff] at hperm
    exact hperm
  refine ⟨code, placed, hcode, hplaces, ?_, fun hplain => hkept (hplain.imp_left hnone)⟩
  intro hroots
  have hsame := (hkept (.inl (hnone hroots))).2
  rw [hnone hroots] at hsame
  exact hsame

def singleTree (name : Text) (bytes : List UInt8) : FileTree where
  entries := [([['s']], .directory), ([['s'], name], .file bytes)]

/-- A program with a line end of two bytes in its only root and one of one byte outside of it. -/
def brokenTag : SourceFile where
  path := ["a.jsx".toList]
  target := ["a.js".toList]
  bytes := [195, 169, 61, 60, 97, 13, 10, 98, 47, 62, 59, 10]

def brokenTagText : Text :=
  ['é', '=', '<', 'a', '\n', 'b', '/', '>', ';', '\n']

theorem brokenTag_kept :
    let tree := singleTree "a.jsx".toList brokenTag.bytes
    tree.Consistent ∧ ∃ root text, root.node.start = 3 ∧ root.node.stop = 10 ∧
      (build (.plain Grammar.parse) {} [] ['s'] ['o'] tree).tree.get? [['o'], "a.js".toList] =
        some (.file (replaced brokenTag.bytes 0 [(root, text)])) := by
  intro tree
  have htree : tree.Consistent := by decide
  obtain ⟨-, results, ⟨-, hresults, -, hholds⟩, hkept⟩ :=
    source_bytes_kept_iff Grammar.parse {} [] ['s'] ['o'] tree htree
  have hfacts : (tree.sources (Path.resolve [] ['s'])).take
        (build (.plain Grammar.parse) {} [] ['s'] ['o'] tree).files = [brokenTag] ∧
      readText brokenTag.bytes = .ok brokenTagText ∧
      ((brokenTag.document Grammar.parse brokenTagText).roots.map fun root =>
        (root.node.start, root.node.stop)) = [(3, 9)] := by decide +kernel
  obtain ⟨hwritten, htext, hranges⟩ := hfacts
  rw [hwritten] at hresults
  obtain ⟨⟨file, emitted⟩, rfl, rfl⟩ := List.map_eq_singleton_iff.mp hresults
  obtain ⟨code, placed, hcode, hplaces, -, hbytes⟩ := hkept brokenTag emitted List.mem_cons_self
  obtain rfl : brokenTagText = code := Except.ok.inj (htext.symm.trans hcode)
  have hplaced : (placed.map fun replacement =>
      (replacement.1.node.start, replacement.1.node.stop)) = [(3, 9)] := by
    have hperm := hplaces.roots.map fun root => (root.node.start, root.node.stop)
    rw [hranges, List.map_map] at hperm
    exact List.perm_singleton.mp hperm
  obtain ⟨⟨root, text⟩, rfl, hrange⟩ := List.map_eq_singleton_iff.mp hplaced
  have hstart : root.node.start = 3 := (Prod.mk.inj hrange).1
  have hstop : root.node.stop = 9 := (Prod.mk.inj hrange).2
  have hmoved : (root.original brokenTag.bytes).node.start = 3 ∧
      (root.original brokenTag.bytes).node.stop = 10 := by
    simp only [Cursor.original, hstart, hstop]
    decide
  refine ⟨htree, root.original brokenTag.bytes, text, hmoved.1, hmoved.2, ?_⟩
  have hkeeps := (hbytes (.inr rfl)).2.mpr (by
    simp only [outside, inOriginal, List.map_cons, List.map_nil, replaced, hmoved]
    decide)
  rw [← show inOriginal brokenTag.bytes [(root, text)] =
    [(root.original brokenTag.bytes, text)] from rfl, ← hkeeps]
  refine (hholds (by simp) ["a.js".toList] _).mpr ⟨[], brokenTag, emitted, [], rfl, rfl, ?_, rfl⟩
  simp

/-- A source without roots whose line end loses a byte. -/
theorem lineEnd_not_kept :
    let tree := singleTree "a.js".toList [120, 59, 13, 10]
    let built := build (.plain Grammar.parse) {} [] ['s'] ['o'] tree
    tree.Consistent ∧ readText [120, 59, 13, 10] = .ok ['x', ';', '\n'] ∧
    (Document.parsed ['x', ';', '\n'] "a.js".toList (Grammar.parse ['x', ';', '\n'])).roots = [] ∧
    built.error = none ∧
    built.tree.get? [['o'], "a.js".toList] = some (.file [120, 59, 10]) := by
  decide +kernel

end TaggedMarkup
