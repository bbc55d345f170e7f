import Mathlib.Data.Finset.Card
import TaggedMarkup.Proofs.Build.Inputs
import TaggedMarkup.Proofs.Build.Run

/-!
# The number of files a build leaves

A build that ends well has written every source it visited, and leaves one file
for each of their targets.  The suffix of a source is exchanged, so two sources
of one directory may share a target; of the four suffixes only `js` and `jsx`
become the same.  The number of sources that a build reports is therefore the
number of files it leaves exactly if no two sources differ in these alone.
-/

namespace TaggedMarkup

/-! ## Sources that share a target -/

/-- Two paths that are the same up to the suffix, which is `js` in the first and `jsx` in the
second. -/
def Twins (first second : Path) : Prop :=
  ∃ directory stem, first = directory ++ [stem ++ '.' :: "js".toList] ∧
    second = directory ++ [stem ++ '.' :: "jsx".toList]

theorem eq_of_dotted_eq {stem other suffix next : Text} (hsuffix : '.' ∉ suffix)
    (hnext : '.' ∉ next) (h : stem ++ '.' :: suffix = other ++ '.' :: next) :
    stem = other ∧ suffix = next := by
  have hdotless : ∀ {text : Text}, '.' ∉ text → ∀ c ∈ text, (c != '.') = true := by
    intro text htext c hc
    simp only [bne_iff_ne, ne_eq]
    rintro rfl
    exact htext hc
  obtain ⟨hstem, hrun⟩ := runAtEnd_of_stop (· != '.') stem '.' (by decide) (hdotless hsuffix)
  obtain ⟨hother, hrest⟩ := runAtEnd_of_stop (· != '.') other '.' (by decide) (hdotless hnext)
  rw [h] at hstem hrun
  exact ⟨List.append_cancel_right (hstem.symm.trans hother), hrun.symm.trans hrest⟩

theorem dot_not_mem_sourceSuffixes {suffix new : Text} (h : (suffix, new) ∈ sourceSuffixes) :
    '.' ∉ suffix ∧ '.' ∉ new := by
  simp only [sourceSuffixes, List.mem_cons, Prod.mk.injEq, List.not_mem_nil, or_false] at h
  rcases h with ⟨rfl, rfl⟩ | ⟨rfl, rfl⟩ | ⟨rfl, rfl⟩ | ⟨rfl, rfl⟩ <;> decide

theorem sourceSuffixes_eq_or {first second new : Text} (hfirst : (first, new) ∈ sourceSuffixes)
    (hsecond : (second, new) ∈ sourceSuffixes) :
    first = second ∨ first = "js".toList ∧ second = "jsx".toList ∨
      first = "jsx".toList ∧ second = "js".toList := by
  simp only [sourceSuffixes, List.mem_cons, Prod.mk.injEq, List.not_mem_nil, or_false]
    at hfirst hsecond
  rcases hfirst with ⟨rfl, rfl⟩ | ⟨rfl, rfl⟩ | ⟨rfl, rfl⟩ | ⟨rfl, rfl⟩ <;>
    rcases hsecond with ⟨rfl, hnew⟩ | ⟨rfl, hnew⟩ | ⟨rfl, hnew⟩ | ⟨rfl, hnew⟩ <;>
    simp_all

theorem Renamed.eq_or_twins {first second target : Path} (hfirst : Renamed first target)
    (hsecond : Renamed second target) :
    first = second ∨ Twins first second ∨ Twins second first := by
  obtain ⟨directory, stem, suffix, new, -, hmem, rfl, rfl⟩ := hfirst
  obtain ⟨other, stem', suffix', new', -, hmem', rfl, htarget⟩ := hsecond
  obtain ⟨rfl, hname⟩ := List.append_inj' htarget rfl
  obtain ⟨rfl, rfl⟩ := eq_of_dotted_eq (dot_not_mem_sourceSuffixes hmem).2
    (dot_not_mem_sourceSuffixes hmem').2 (List.singleton_injective hname)
  rcases sourceSuffixes_eq_or hmem hmem' with rfl | ⟨rfl, rfl⟩ | ⟨rfl, rfl⟩
  · exact .inl rfl
  · exact .inr (.inl ⟨directory, stem, rfl, rfl⟩)
  · exact .inr (.inr ⟨directory, stem, rfl, rfl⟩)

theorem Renamed.target_eq {directory target : Path} {stem suffix new : Text}
    (hmem : (suffix, new) ∈ sourceSuffixes)
    (h : Renamed (directory ++ [stem ++ '.' :: suffix]) target) :
    target = directory ++ [stem ++ '.' :: new] := by
  have hkeys : (sourceSuffixes.map Prod.fst).Nodup := by decide
  obtain ⟨other, stem', suffix', new', -, hmem', hpath, rfl⟩ := h
  obtain ⟨rfl, hname⟩ := List.append_inj' hpath rfl
  obtain ⟨rfl, rfl⟩ := eq_of_dotted_eq (dot_not_mem_sourceSuffixes hmem).1
    (dot_not_mem_sourceSuffixes hmem').1 (List.singleton_injective hname)
  have hnew := ((lookup_eq_some_iff_mem hkeys).mpr hmem').symm.trans
    ((lookup_eq_some_iff_mem hkeys).mpr hmem)
  rw [Option.some.inj hnew]

theorem Renamed.eq_of_twins {first second target other : Path} (hfirst : Renamed first target)
    (hsecond : Renamed second other) (h : Twins first second) : target = other := by
  obtain ⟨directory, stem, rfl, rfl⟩ := h
  rw [hfirst.target_eq (by decide : ("js".toList, "js".toList) ∈ sourceSuffixes),
    hsecond.target_eq (by decide : ("jsx".toList, "js".toList) ∈ sourceSuffixes)]

/-- Two of the sources below a directory share a target, being twins. -/
def HasTwins (tree : FileTree) (source : Path) : Prop :=
  ∃ first second : SourceFile, first.Eligible tree source ∧ second.Eligible tree source ∧
    Twins first.path second.path

def TargetsDistinct (tree : FileTree) (source : Path) : Prop :=
  ∀ first second : SourceFile, first.Eligible tree source → second.Eligible tree source →
    first.target = second.target → first = second

theorem targetsDistinct_iff (tree : FileTree) (source : Path) :
    TargetsDistinct tree source ↔ ¬ HasTwins tree source := by
  constructor
  · rintro hdistinct ⟨first, second, hfirst, hsecond, htwins⟩
    have heq := hdistinct first second hfirst hsecond
      (hfirst.renamed.eq_of_twins hsecond.renamed htwins)
    obtain ⟨directory, stem, hpath, hother⟩ := htwins
    rw [heq, hother] at hpath
    simp at hpath
  · intro htwins first second hfirst hsecond htarget
    have hrenamed := hsecond.renamed
    rw [← htarget] at hrenamed
    rcases hfirst.renamed.eq_or_twins hrenamed with hpath | hpair | hpair
    · have hbytes := hfirst.stands
      rw [hpath, hsecond.stands] at hbytes
      cases first
      cases second
      simp_all
    · exact absurd ⟨first, second, hfirst, hsecond, hpair⟩ htwins
    · exact absurd ⟨second, first, hsecond, hfirst, hpair⟩ htwins

/-! ## Writing the files -/

/-- Wherever a build stops, it has written out the sources before, and up to there it leaves their
outputs. -/
theorem buildFiles_writes (platform : Platform) (options : EmitOptions) {output : Path}
    {files : List SourceFile} {built : Built} (hnone : built.error = none)
    (hkeyed : built.tree.Keyed) (hholds : HoldsOutputs built.tree output [])
    (htargets : ∀ file ∈ files, file.target ≠ []) :
    ∃ results next, built.Advances platform options results next ∧
      next.tree.Keyed ∧ HoldsOutputs next.tree output results ∧
      ((results.map Prod.fst = files ∧ buildFiles platform options output files built = next) ∨
        ∃ file later, files = results.map Prod.fst ++ file :: later ∧
          buildFiles platform options output files built =
            buildFile platform options output file next ∧
          (buildFile platform options output file next).error ≠ none) := by
  obtain ⟨results, next, hadvances, ⟨hlast, hfinal⟩, hends⟩ :=
    buildFiles_run platform options output
      (fun done tree => tree.Keyed ∧ HoldsOutputs tree output done) files
      (fun done tree file emitted made hmem hkept _ hopens =>
        ⟨(hopens.keyed hkept.1).insert _ _, hkept.2.deposit (htargets file hmem) hopens emitted⟩)
      hnone ⟨hkeyed, hholds⟩
  rw [List.nil_append] at hfinal
  exact ⟨results, next, hadvances, hlast, hfinal, hends⟩

/-! ## Counting the files -/

section Counting

variable {tree : FileTree} {output : Path} {results : List (SourceFile × Emitted)}

theorem exists_isOutput_iff {target : Path} :
    (∃ bytes, IsOutput results target bytes) ↔
      target ∈ results.map fun result => result.1.target := by
  induction results using List.reverseRecOn with
  | nil => simp [IsOutput]
  | append_singleton results result ih =>
      obtain ⟨file, emitted⟩ := result
      simp only [isOutput_concat, List.map_append, List.mem_append, ← ih]
      by_cases htarget : file.target = target
      · simp [htarget]
      · simp [htarget, Ne.symm htarget]

theorem isOutput_of_nodup (hdistinct : (results.map fun result => result.1.target).Nodup)
    {file : SourceFile} {emitted : Emitted} (hmem : (file, emitted) ∈ results) :
    IsOutput results file.target (Utf8.encode emitted.code) := by
  obtain ⟨before, after, rfl⟩ := List.append_of_mem hmem
  refine ⟨before, file, emitted, after, rfl, rfl, ?_, rfl⟩
  intro later hlater heq
  rw [List.map_append, List.map_cons, List.nodup_append, List.nodup_cons] at hdistinct
  exact hdistinct.2.1.1 (List.mem_map.mpr ⟨later, hlater, heq⟩)

theorem HoldsOutputs.length_filesUnder (hholds : HoldsOutputs tree output results)
    (hkeyed : tree.Keyed) (houtput : output ≠ []) :
    (tree.filesUnder output).length =
      (results.map fun result => result.1.target).toFinset.card := by
  have hdistinct : ((tree.filesUnder output).map Prod.fst).Nodup :=
    List.pairwise_map.mpr (filesUnder_distinct hkeyed)
  rw [← List.length_map Prod.fst, ← List.toFinset_card_of_nodup hdistinct]
  congr 1
  ext relative
  rw [List.mem_toFinset, List.mem_toFinset, ← exists_isOutput_iff, List.mem_map]
  constructor
  · rintro ⟨⟨place, bytes⟩, hmem, rfl⟩
    refine ⟨bytes, (hholds place bytes).mp ?_⟩
    exact (hkeyed.get?_eq_some_iff (by simp [houtput])).mpr (mem_filesUnder.mp hmem)
  · rintro ⟨bytes, hfile⟩
    refine ⟨(relative, bytes), mem_filesUnder.mpr ?_, rfl⟩
    exact (hkeyed.get?_eq_some_iff (by simp [houtput])).mp ((hholds relative bytes).mpr hfile)

end Counting

/-! ## Whole builds -/

section Success

variable {platform : Platform} {options : EmitOptions} {source output : Path} {tree : FileTree}

theorem buildBetween_of_success
    (h : (buildBetween platform options source output tree).error = none) :
    ¬ source <+: output ∧ ∃ renewed, tree.renewDirectory output = .ok renewed ∧
      buildBetween platform options source output tree =
        buildFiles platform options output (renewed.sources source) { tree := renewed } := by
  unfold buildBetween at h ⊢
  split at h
  · cases h
  · rename_i hapart
    rw [List.isPrefixOf_iff_prefix] at hapart
    cases hrenew : tree.renewDirectory output with
    | error error => simp [hrenew] at h
    | ok renewed =>
        refine ⟨hapart, renewed, rfl, ?_⟩
        simp [hapart]

/-- Nothing is counted where the output directory is above the sources. -/
theorem counted_of_above (htree : tree.Consistent) (habove : output <+: source)
    (h : (buildBetween platform options source output tree).error = none) :
    ((buildBetween platform options source output tree).tree.filesUnder output).length =
      (buildBetween platform options source output tree).files := by
  obtain ⟨hapart, renewed, hrenewed, hbuild⟩ := buildBetween_of_success h
  have hne : output ≠ source := by
    rintro rfl
    exact hapart habove
  rw [hbuild, sources_of_renewed htree habove hne hrenewed, buildFiles]
  by_cases hroot : output = []
  · subst hroot
    rw [FileTree.renewDirectory_nil] at hrenewed
    cases hrenewed
    rfl
  · obtain ⟨hkeyed, hself, hbelow, -⟩ := FileTree.renewed_of_ok htree hrenewed
    exact (holdsOutputs_nil hself hbelow).length_filesUnder hkeyed hroot

theorem nodup_targets_iff (htree : tree.Consistent) (hsource : source ≠ []) :
    ((tree.sources source).map SourceFile.target).Nodup ↔ TargetsDistinct tree source := by
  rw [List.nodup_map_iff_inj_on (sources_nodup htree.keyed)]
  simp only [mem_sources htree.keyed hsource, TargetsDistinct]
  exact ⟨fun h first second hfirst hsecond => h first hfirst second hsecond,
    fun h first hfirst second hsecond => h first second hfirst hsecond⟩

/-- A build that ends well has written out the sources, and leaves their outputs. -/
theorem outputs_of_success (htree : tree.Consistent) (habove : ¬ output <+: source)
    (h : (buildBetween platform options source output tree).error = none) :
    ∃ results, (∀ file : SourceFile, file.Eligible tree source ↔ file ∈ results.map Prod.fst) ∧
      ((results.map fun result => result.1.target).Nodup ↔ TargetsDistinct tree source) ∧
      Emits platform options results ∧
      (buildBetween platform options source output tree).files = results.length ∧
      (buildBetween platform options source output tree).tree.Keyed ∧
      HoldsOutputs (buildBetween platform options source output tree).tree output results := by
  obtain ⟨hapart, renewed, hrenewed, hbuild⟩ := buildBetween_of_success h
  obtain ⟨hkeyed, hself, hbelow, -⟩ := FileTree.renewed_of_ok htree hrenewed
  have hsource : source ≠ [] := by
    rintro rfl
    exact hapart List.nil_prefix
  have hsources := sources_of_renewed_apart htree hapart habove hrenewed
  have hfresh : ({ tree := renewed } : Built).error = none := rfl
  obtain ⟨results, next, ⟨hemits, -, hfiles, -⟩, hlast, hholds, ⟨hall, hdone⟩ |
    ⟨file, later, -, hstopped, hstops⟩⟩ :=
    buildFiles_writes platform options hfresh hkeyed (holdsOutputs_nil hself hbelow)
      fun file hmem => target_ne_nil hkeyed hsource hmem
  · rw [hsources] at hall
    rw [hbuild, hdone]
    refine ⟨results, ?_, ?_, hemits, ?_, hlast, hholds⟩
    · intro file
      rw [hall, mem_sources htree.keyed hsource]
    · rw [← nodup_targets_iff htree hsource, ← hall, List.map_map]
      rfl
    · rw [hfiles, Nat.zero_add]
  · rw [hbuild, hstopped] at h
    exact absurd h hstops

end Success

/-- A build that ends well leaves as many files as it reports exactly if no two sources differ in
`js` and `jsx` alone, or if its output directory is above the sources, which are then lost.  If
there are no such two, every source is found in the output directory. -/
theorem files_counted_iff (platform : Platform) (options : EmitOptions) (workingDirectory : Path)
    (source output : Text) (tree : FileTree) (htree : tree.Consistent)
    (hdone : (build platform options workingDirectory source output tree).error = none) :
    let sourcePath := Path.resolve workingDirectory source
    let outputPath := Path.resolve workingDirectory output
    let built := build platform options workingDirectory source output tree
    (TargetsDistinct tree sourcePath ↔ ¬ HasTwins tree sourcePath) ∧
    ((built.tree.filesUnder outputPath).length = built.files ↔
      outputPath <+: sourcePath ∨ ¬ HasTwins tree sourcePath) ∧
    (¬ outputPath <+: sourcePath → ¬ HasTwins tree sourcePath →
      ∀ file : SourceFile, file.Eligible tree sourcePath → ∃ emitted,
        file.emit platform options = .ok emitted ∧
        built.tree.get? (outputPath ++ file.target) =
          some (.file (Utf8.encode emitted.code))) := by
  intro sourcePath outputPath built
  have hbegins : tree.find? workingDirectory (Path.tidy source) = some .directory := by
    by_contra hmissing
    rw [build, if_neg hmissing] at hdone
    cases hdone
  have hbuilt : built = buildBetween platform options sourcePath outputPath tree := if_pos hbegins
  have hsuccess : (buildBetween platform options sourcePath outputPath tree).error = none := by
    rw [← hbuilt]
    exact hdone
  rw [hbuilt]
  refine ⟨targetsDistinct_iff tree sourcePath, ?_, ?_⟩
  · by_cases habove : outputPath <+: sourcePath
    · simp only [habove, true_or, iff_true]
      exact counted_of_above htree habove hsuccess
    · obtain ⟨results, -, hdistinct, -, hfiles, hkeyed, hholds⟩ :=
        outputs_of_success htree habove hsuccess
      have houtput : outputPath ≠ [] := by
        intro hroot
        exact habove (hroot ▸ List.nil_prefix)
      have hcount : (results.map fun result => result.1.target).toFinset.card =
          (results.map fun result => result.1.target).length ↔
          (results.map fun result => result.1.target).Nodup :=
        Multiset.toFinset_card_eq_card_iff_nodup
      rw [List.length_map, hdistinct, targetsDistinct_iff] at hcount
      rw [hholds.length_filesUnder hkeyed houtput, hfiles, hcount]
      simp [habove]
  · intro habove htwins file hfile
    obtain ⟨results, heligible, hdistinct, hemits, -, -, hholds⟩ :=
      outputs_of_success htree habove hsuccess
    obtain ⟨⟨_, emitted⟩, hresult, rfl⟩ := List.mem_map.mp ((heligible file).mp hfile)
    refine ⟨emitted, hemits _ hresult, (hholds _ _).mpr ?_⟩
    rw [targetsDistinct_iff] at hdistinct
    exact isOutput_of_nodup (hdistinct.mpr htwins) hresult

def pairTree (name : Text) : FileTree where
  entries := [
    ([['s']], .directory),
    ([['s'], ['a', '.', 'j', 's']], .file (Utf8.encode "<a/>".toList)),
    ([['s'], name], .file (Utf8.encode "f(<b/>)".toList))]

def pairFiles (name target : Text) : List SourceFile := [
  ⟨[['a', '.', 'j', 's']], [['a', '.', 'j', 's']], Utf8.encode "<a/>".toList⟩,
  ⟨[name], [target], Utf8.encode "f(<b/>)".toList⟩]

theorem sources_pairTree {name target : Text}
    (hfiles : ((pairTree name).filesUnder [['s']]).filterMap SourceFile.ofFile? =
      pairFiles name target) (hlater : textLe ['a', '.', 'j', 's'] name = true) :
    (pairTree name).sources [['s']] = pairFiles name target := by
  have hsorted : (pairFiles name target).Pairwise fun a b => a.path.le b.path = true := by
    simp [pairFiles, Path.le, hlater]
  rw [FileTree.sources, hfiles, List.mergeSort_of_pairwise hsorted]

theorem build_pairTree {name target : Text}
    (hsources : (pairTree name).sources [['s']] = pairFiles name target) :
    build (.plain Grammar.parse) {} [] ['s'] ['o'] (pairTree name) =
      buildFiles (.plain Grammar.parse) {} [['o']] (pairFiles name target)
        { tree := ⟨([['o']], .directory) :: (pairTree name).entries⟩ } := by
  rw [← hsources]
  rfl

/-- Of `a.js` and `a.jsx` two sources are written, and one file is there. -/
theorem twin_overwritten :
    let tree := pairTree ['a', '.', 'j', 's', 'x']
    let built := build (.plain Grammar.parse) {} [] ['s'] ['o'] tree
    tree.Consistent ∧ built.error = none ∧ built.files = 2 ∧ built.templates = 2 ∧
    built.tree.filesUnder [['o']] =
      [([['a', '.', 'j', 's']], Utf8.encode "f(html\x60<b/>\x60)".toList)] := by
  intro tree built
  have hsources : tree.sources [['s']] = pairFiles _ ['a', '.', 'j', 's'] :=
    sources_pairTree rfl (by decide)
  have hbuilt : built = _ := build_pairTree hsources
  rw [hbuilt]
  decide +kernel

/-- Of `a.js` and `a.tsx` both are there. -/
theorem pair_counted :
    let tree := pairTree ['a', '.', 't', 's', 'x']
    let built := build (.plain Grammar.parse) {} [] ['s'] ['o'] tree
    built.error = none ∧ built.templates = 2 ∧
    (built.tree.filesUnder [['o']]).length = built.files ∧
    ∀ file : SourceFile, file.Eligible tree [['s']] → ∃ emitted,
      file.emit (.plain Grammar.parse) {} = .ok emitted ∧
      built.tree.get? ([['o']] ++ file.target) = some (.file (Utf8.encode emitted.code)) := by
  intro tree built
  have htree : tree.Consistent := by decide
  have hsources : tree.sources [['s']] = pairFiles _ ['a', '.', 't', 's'] :=
    sources_pairTree rfl (by decide)
  have hdone : built.error = none ∧ built.templates = 2 := by
    have hbuilt : built = _ := build_pairTree hsources
    rw [hbuilt]
    decide +kernel
  have hapart : ¬ HasTwins tree [['s']] := by
    rw [← targetsDistinct_iff, ← nodup_targets_iff htree (by decide), hsources]
    decide
  obtain ⟨-, hcounted, hfound⟩ :=
    files_counted_iff (.plain Grammar.parse) {} [] ['s'] ['o'] _ htree hdone.1
  exact ⟨hdone.1, hdone.2, hcounted.mpr (.inr hapart), hfound (by decide) hapart⟩

end TaggedMarkup
