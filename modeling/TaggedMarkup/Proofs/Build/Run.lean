import Mathlib.Algebra.Ring.Nat
import TaggedMarkup.Grammar.Program
import TaggedMarkup.Proofs.Build.Sources
import TaggedMarkup.Proofs.Document.Diagnostics
import TaggedMarkup.Proofs.Document.FileName
import TaggedMarkup.Proofs.Files.Writing

/-!
# What a build leaves behind

A build empties its output directory and then writes one file after another.
After each of them the files in the output directory are those of the sources
visited so far, where two sources may become one file and the later one stays.
This holds up to the first source that fails, or to the end.
-/

namespace TaggedMarkup

/-! ## Outputs of sources -/

def SourceFile.emit (platform : Platform) (options : EmitOptions) (file : SourceFile) :
    Except EmitError Emitted :=
  emitBytes platform options (Path.join file.path) file.bytes

/-- Each source comes with what it is written out as. -/
def Emits (platform : Platform) (options : EmitOptions) (results : List (SourceFile × Emitted)) :
    Prop :=
  ∀ result ∈ results, result.1.emit platform options = .ok result.2

/-- The last of the sources that become this path is written out as these bytes. -/
def IsOutput (results : List (SourceFile × Emitted)) (target : Path) (bytes : List UInt8) : Prop :=
  ∃ before file emitted after, results = before ++ (file, emitted) :: after ∧
    file.target = target ∧ (∀ later ∈ after, later.1.target ≠ target) ∧
    bytes = Utf8.encode emitted.code

/-- The files below a directory are the outputs of some sources. -/
def HoldsOutputs (tree : FileTree) (output : Path) (results : List (SourceFile × Emitted)) : Prop :=
  ∀ relative bytes, tree.get? (output ++ relative) = some (.file bytes) ↔
    IsOutput results relative bytes

section Outputs

variable {results : List (SourceFile × Emitted)} {file : SourceFile} {emitted : Emitted}
  {target : Path} {bytes : List UInt8}

theorem IsOutput.exists_target (h : IsOutput results target bytes) :
    ∃ result ∈ results, result.1.target = target := by
  obtain ⟨before, file, emitted, after, rfl, htarget, -, -⟩ := h
  exact ⟨(file, emitted), by simp, htarget⟩

theorem isOutput_concat : IsOutput (results ++ [(file, emitted)]) target bytes ↔
    if file.target = target then bytes = Utf8.encode emitted.code
    else IsOutput results target bytes := by
  constructor
  · rintro ⟨before, found, given, after, hsplit, htarget, hlater, hbytes⟩
    rcases List.eq_nil_or_concat after with rfl | ⟨after, last, rfl⟩
    · obtain ⟨-, hlast⟩ := List.append_inj' hsplit rfl
      cases hlast
      rwa [if_pos htarget]
    · have hregroup : before ++ (found, given) :: after.concat last =
          (before ++ (found, given) :: after) ++ [last] := by simp
      obtain ⟨rfl, hlast⟩ := List.append_inj' (hsplit.trans hregroup) rfl
      cases hlast
      have hother : file.target ≠ target := hlater (file, emitted) (by simp)
      rw [if_neg hother]
      exact ⟨before, found, given, after, rfl, htarget,
        fun later hmem => hlater later (by simp [hmem]), hbytes⟩
  · split
    · rename_i htarget
      intro hbytes
      exact ⟨results, file, emitted, [], rfl, htarget, by simp, hbytes⟩
    · rename_i htarget
      rintro ⟨before, found, given, after, rfl, hfound, hlater, hbytes⟩
      refine ⟨before, found, given, after ++ [(file, emitted)], by simp, hfound, ?_, hbytes⟩
      intro later hmem
      rcases List.mem_append.mp hmem with hmem | hmem
      · exact hlater later hmem
      · rw [List.mem_singleton.mp hmem]
        exact htarget

end Outputs

/-- Sources are split in one way into those that can be written out and the rest, if that begins
with one that cannot. -/
theorem Emits.unique {platform : Platform} {options : EmitOptions}
    {results others : List (SourceFile × Emitted)} {rest later : List SourceFile}
    (hresults : Emits platform options results) (hothers : Emits platform options others)
    (hsplit : results.map Prod.fst ++ rest = others.map Prod.fst ++ later)
    (hrest : ∀ file ∈ rest.head?, ∃ error, file.emit platform options = .error error)
    (hlater : ∀ file ∈ later.head?, ∃ error, file.emit platform options = .error error) :
    results = others ∧ rest = later := by
  induction results generalizing others with
  | nil =>
      cases others with
      | nil => exact ⟨rfl, hsplit⟩
      | cons other others =>
          obtain ⟨error, herror⟩ := hrest other.1 (by
            rw [← List.nil_append rest, ← List.map_nil, hsplit]
            rfl)
          rw [hothers other List.mem_cons_self] at herror
          cases herror
  | cons result results ih =>
      cases others with
      | nil =>
          obtain ⟨error, herror⟩ := hlater result.1 (by
            rw [← List.nil_append later, ← List.map_nil, ← hsplit]
            rfl)
          rw [hresults result List.mem_cons_self] at herror
          cases herror
      | cons other others =>
          obtain ⟨hfile, htail⟩ := List.cons.inj hsplit
          have hemit := hresults result List.mem_cons_self
          rw [hfile, hothers other List.mem_cons_self] at hemit
          obtain ⟨rfl, rfl⟩ := ih (fun later hmem => hresults later (List.mem_cons_of_mem _ hmem))
            (fun later hmem => hothers later (List.mem_cons_of_mem _ hmem)) htail
          rw [Prod.ext hfile (Except.ok.inj hemit).symm]
          exact ⟨rfl, rfl⟩

/-! ## One source -/

section Step

variable {platform : Platform} {options : EmitOptions} {output : Path} {file : SourceFile}
  {built : Built} {emitted : Emitted} {made : FileTree}

theorem buildFile_of_error {error : EmitError} (h : file.emit platform options = .error error) :
    buildFile platform options output file built = { built with error := some (.emit error) } := by
  rw [SourceFile.emit] at h
  rw [buildFile, h]

def Built.wrote (built : Built) (tree : FileTree) (emitted : Emitted) : Built :=
  { built with
    tree
    files := built.files + 1
    templates := built.templates + emitted.templates }

theorem buildFile_of_ok (h : file.emit platform options = .ok emitted) :
    buildFile platform options output file built =
      let stored := platform.deposit built.tree (output ++ file.target) emitted.code
      match stored.error with
      | some error => { built with tree := stored.tree, error := some (.ofWrite error) }
      | none => built.wrote stored.tree emitted := by
  rw [SourceFile.emit] at h
  rw [buildFile, h]
  rfl

theorem buildFile_of_encodable (h : file.emit platform options = .ok emitted)
    (hopens : built.tree.Opens (output ++ file.target) made)
    (hencodable : platform.Encodable emitted.code) :
    buildFile platform options output file built = built.wrote
      (made.insert (output ++ file.target) (.file (Utf8.encode emitted.code))) emitted := by
  rw [buildFile_of_ok h, Platform.deposit_of_encodable hopens hencodable]

theorem buildFile_of_not_encodable (h : file.emit platform options = .ok emitted)
    (hopens : built.tree.Opens (output ++ file.target) made)
    (hencodable : ¬ platform.Encodable emitted.code) :
    ∃ error, buildFile platform options output file built =
      { built with
        tree := made.insert (output ++ file.target) (.file [])
        error := some (.unencodable error) } := by
  obtain ⟨error, herror⟩ := Platform.deposit_of_not_encodable hopens hencodable
  rw [buildFile_of_ok h, herror]
  exact ⟨error, rfl⟩

/-- A source is written out, or its file is left empty, or no file is touched. -/
theorem buildFile_cases (platform : Platform) (options : EmitOptions) (output : Path)
    (file : SourceFile) (built : Built) :
    (∃ emitted made, file.emit platform options = .ok emitted ∧
      built.tree.Opens (output ++ file.target) made ∧ platform.Encodable emitted.code ∧
      buildFile platform options output file built = built.wrote
        (made.insert (output ++ file.target) (.file (Utf8.encode emitted.code))) emitted) ∨
    (∃ emitted made error, file.emit platform options = .ok emitted ∧
      built.tree.Opens (output ++ file.target) made ∧ ¬ platform.Encodable emitted.code ∧
      buildFile platform options output file built =
        { built with
          tree := made.insert (output ++ file.target) (.file [])
          error := some error }) ∨
    ∃ error tree,
      buildFile platform options output file built = { built with tree, error := some error } ∧
      (tree = built.tree ∨
        built.tree.makeDirectories (output ++ file.target).dropLast = .ok tree) ∧
      ∀ emitted, file.emit platform options = .ok emitted →
        ∀ made, ¬ built.tree.Opens (output ++ file.target) made := by
  cases hemit : file.emit platform options with
  | error error =>
      refine .inr (.inr ⟨.emit error, built.tree, buildFile_of_error hemit, .inl rfl, ?_⟩)
      intro emitted hok
      cases hok
  | ok emitted =>
      by_cases hopens : ∃ made, built.tree.Opens (output ++ file.target) made
      · obtain ⟨made, hmade⟩ := hopens
        by_cases hencodable : platform.Encodable emitted.code
        · exact .inl ⟨emitted, made, rfl, hmade, hencodable,
            buildFile_of_encodable hemit hmade hencodable⟩
        · obtain ⟨error, herror⟩ := buildFile_of_not_encodable hemit hmade hencodable
          exact .inr (.inl ⟨emitted, made, _, rfl, hmade, hencodable, herror⟩)
      · have hclosed := not_exists.mp hopens
        obtain ⟨error, tree, herror, htree⟩ :=
          Platform.deposit_of_not_opens platform emitted.code hclosed
        refine .inr (.inr ⟨.storage error, tree, ?_, htree, fun _ _ => hclosed⟩)
        rw [buildFile_of_ok hemit, herror]
        rfl

end Step

/-! ## One source after another -/

/-- From one state to another a build wrote out these sources. -/
structure Built.Advances (platform : Platform) (options : EmitOptions)
    (results : List (SourceFile × Emitted)) (built next : Built) : Prop where
  emits : Emits platform options results
  error : next.error = none
  files : next.files = built.files + results.length
  templates : next.templates = built.templates + (results.map (·.2.templates)).sum

/-- A property of the sources written so far and the tree that each step keeps holds up to the
source that ends the build, or to the end. -/
theorem buildFiles_run (platform : Platform) (options : EmitOptions) (output : Path)
    (kept : List (SourceFile × Emitted) → FileTree → Prop) (files : List SourceFile)
    (hstep : ∀ done tree file emitted made, file ∈ files → kept done tree →
      file.emit platform options = .ok emitted → tree.Opens (output ++ file.target) made →
      kept (done ++ [(file, emitted)])
        (made.insert (output ++ file.target) (.file (Utf8.encode emitted.code))))
    {done : List (SourceFile × Emitted)} {built : Built} (hnone : built.error = none)
    (hkept : kept done built.tree) :
    ∃ results next, built.Advances platform options results next ∧
      kept (done ++ results) next.tree ∧
      ((results.map Prod.fst = files ∧ buildFiles platform options output files built = next) ∨
        ∃ file later, files = results.map Prod.fst ++ file :: later ∧
          buildFiles platform options output files built =
            buildFile platform options output file next ∧
          (buildFile platform options output file next).error ≠ none) := by
  induction files generalizing done built with
  | nil =>
      refine ⟨[], built, ⟨by simp [Emits], hnone, rfl, rfl⟩, by rwa [List.append_nil], .inl ?_⟩
      exact ⟨rfl, rfl⟩
  | cons file files ih =>
      cases herror : (buildFile platform options output file built).error with
      | some error =>
          refine ⟨[], built, ⟨by simp [Emits], hnone, rfl, rfl⟩, by rwa [List.append_nil],
            .inr ⟨file, files, rfl, ?_, by simp [herror]⟩⟩
          rw [buildFiles]
          simp only [herror]
      | none =>
          rcases buildFile_cases platform options output file built with
            ⟨emitted, made, hemit, hopens, -, hnext⟩ | ⟨_, _, error, -, -, -, hstopped⟩ |
            ⟨error, tree, hstopped, -⟩
          · have hfirst := hstep done built.tree file emitted made List.mem_cons_self hkept hemit
              hopens
            have htree : (buildFile platform options output file built).tree =
                made.insert (output ++ file.target) (.file (Utf8.encode emitted.code)) := by
              rw [hnext]
              rfl
            rw [← htree] at hfirst
            obtain ⟨results, next, ⟨hemits, hfine, hcount, hsum⟩, hlast, hends⟩ :=
              ih (fun done tree other emitted made hmem => hstep done tree other emitted made
                (List.mem_cons_of_mem _ hmem)) herror hfirst
            have hrun : buildFiles platform options output (file :: files) built =
                buildFiles platform options output files
                  (buildFile platform options output file built) := by
              rw [buildFiles]
              simp only [herror]
            rw [hnext] at hcount hsum
            refine ⟨(file, emitted) :: results, next,
              ⟨List.forall_mem_cons.mpr ⟨hemit, hemits⟩, hfine, ?_, ?_⟩, ?_, ?_⟩
            · rw [hcount, Built.wrote, List.length_cons]
              dsimp only
              omega
            · rw [hsum, Built.wrote, List.map_cons, List.sum_cons]
              dsimp only
              omega
            · rwa [List.append_cons]
            · rw [hrun]
              rcases hends with ⟨hall, hdone⟩ | ⟨stopping, later, hsplit, hdone, hstops⟩
              · exact .inl ⟨by rw [List.map_cons, hall], hdone⟩
              · exact .inr ⟨stopping, later, by rw [List.map_cons, hsplit, List.cons_append],
                  hdone, hstops⟩
          · rw [hstopped] at herror
            cases herror
          · rw [hstopped] at herror
            cases herror

/-! ## The output directory -/

section Holds

variable {output : Path} {tree made : FileTree} {results : List (SourceFile × Emitted)}
  {file : SourceFile}

theorem HoldsOutputs.deposit (hholds : HoldsOutputs tree output results)
    (htarget : file.target ≠ []) (hopens : tree.Opens (output ++ file.target) made)
    (emitted : Emitted) :
    HoldsOutputs (made.insert (output ++ file.target) (.file (Utf8.encode emitted.code))) output
      (results ++ [(file, emitted)]) := by
  intro relative bytes
  rw [hopens.get?_insert (by simp [htarget]), isOutput_concat]
  simp only [List.append_right_inj]
  by_cases hself : relative = file.target
  · simp [hself, eq_comm]
  · rw [if_neg hself, if_neg (Ne.symm hself), ← hholds]
    split
    · rename_i habove
      -- where a directory is made now, there was no file before
      simp [hopens.passable _ habove bytes]
    · rfl

theorem HoldsOutputs.makeDirectories (hholds : HoldsOutputs tree output results) {path : Path}
    (h : tree.makeDirectories path = .ok made) : HoldsOutputs made output results := by
  have hfree := FileTree.passable_of_makeDirectories h
  obtain ⟨other, hother, -, hget⟩ := FileTree.makeDirectories_spec hfree
  obtain rfl := Except.ok.inj (h.symm.trans hother)
  intro relative bytes
  rw [hget, ← hholds]
  split
  · rename_i habove
    simp [hfree _ habove bytes]
  · rfl

end Holds

def Compatible (first second : Path) : Prop :=
  (first <+: second → first = second) ∧ (second <+: first → first = second)

/-- How an output directory stands once some sources are written. -/
structure Laid (output : Path) (tree : FileTree) (results : List (SourceFile × Emitted)) :
    Prop where
  above : ∀ path, path <+: output → tree.get? path = some .directory
  files : HoldsOutputs tree output results
  /-- Directories are there only for files below them. -/
  directories : ∀ relative, relative ≠ [] → tree.get? (output ++ relative) = some .directory →
    ∃ result ∈ results, relative <+: result.1.target ∧ relative ≠ result.1.target

section Laid

variable {output : Path} {tree made : FileTree} {results : List (SourceFile × Emitted)}
  {file : SourceFile}

theorem Laid.passable (h : Laid output tree results)
    (hcompatible : ∀ result ∈ results, Compatible result.1.target file.target) {inner : Path}
    (hinner : inner <+: file.target) (hproper : inner ≠ file.target) :
    tree.Passable (output ++ inner) := by
  intro above habove bytes hfile
  rcases List.prefix_or_prefix_of_prefix habove (List.prefix_append output inner) with
    houter | ⟨relative, rfl⟩
  · rw [h.above above houter] at hfile
    cases hfile
  · rw [List.prefix_append_right_inj] at habove
    obtain ⟨result, hmem, rfl⟩ := ((h.files relative bytes).mp hfile).exists_target
    -- a file written before would stand above the new one
    have heq := (hcompatible result hmem).1 (habove.trans hinner)
    exact hproper (hinner.eq_of_length_le (by rw [← heq]; exact habove.length_le))

theorem Laid.opens (h : Laid output tree results) (htarget : file.target ≠ [])
    (hcompatible : ∀ result ∈ results, Compatible result.1.target file.target) :
    ∃ made, tree.Opens (output ++ file.target) made := by
  have hfree := h.passable hcompatible (List.dropLast_prefix _)
    (FileTree.dropLast_ne_self htarget)
  rw [← List.dropLast_append_of_ne_nil htarget] at hfree
  refine FileTree.exists_opens (by simp [htarget]) hfree ?_
  intro hoccupied
  obtain ⟨result, hmem, hbegins, hne⟩ := h.directories file.target htarget hoccupied
  exact hne ((hcompatible result hmem).2 hbegins).symm

theorem Laid.deposit (h : Laid output tree results) (htarget : file.target ≠ [])
    (hopens : tree.Opens (output ++ file.target) made) (emitted : Emitted) :
    Laid output (made.insert (output ++ file.target) (.file (Utf8.encode emitted.code)))
      (results ++ [(file, emitted)]) := by
  have hget := hopens.get?_insert (by simp [htarget]) (Utf8.encode emitted.code)
  have hdrop : (output ++ file.target).dropLast = output ++ file.target.dropLast :=
    List.dropLast_append_of_ne_nil htarget
  refine ⟨?_, h.files.deposit htarget hopens emitted, ?_⟩
  · intro path hpath
    have hne : path ≠ output ++ file.target := by
      rintro rfl
      have hlength := hpath.length_le
      have hpositive := List.length_pos_iff.mpr htarget
      rw [List.length_append] at hlength
      omega
    have habove : path <+: (output ++ file.target).dropLast := by
      rw [hdrop]
      exact hpath.trans (List.prefix_append output _)
    rw [hget, if_neg hne, if_pos habove]
  · intro relative hrelative hfound
    rw [hget, hdrop] at hfound
    simp only [List.append_right_inj, List.prefix_append_right_inj] at hfound
    split at hfound
    · cases hfound
    · rename_i hself
      split at hfound
      · rename_i habove
        exact ⟨(file, emitted), by simp, habove.trans (List.dropLast_prefix _), hself⟩
      · obtain ⟨result, hmem, hbegins, hne⟩ := h.directories relative hrelative hfound
        exact ⟨result, List.mem_append_left _ hmem, hbegins, hne⟩

end Laid

/-! ## Whole builds -/

/-- A source directory and an output directory that a build can go between: neither is above the
other, the way to the output is free, and no source has to be written below another. -/
structure Buildable (tree : FileTree) (source output : Path) : Prop where
  consistent : tree.Consistent
  not_inside : ¬ source <+: output
  not_above : ¬ output <+: source
  passable : tree.Passable output
  targets : ∀ first second : SourceFile, first.Eligible tree source →
    second.Eligible tree source → first.target <+: second.target → first.target = second.target

section Between

variable {tree : FileTree} {source output : Path}

theorem holdsOutputs_nil {renewed : FileTree} (hself : renewed.get? output = some .directory)
    (hbelow : ∀ relative, relative ≠ [] → renewed.get? (output ++ relative) = none) :
    HoldsOutputs renewed output [] := by
  intro relative bytes
  have hnothing : ¬ IsOutput [] relative bytes := by simp [IsOutput]
  by_cases hrelative : relative = []
  · simp [hrelative, hself, hrelative ▸ hnothing]
  · simp [hbelow relative hrelative, hnothing]

theorem laid_nil {renewed : FileTree}
    (habove : ∀ above, above <+: output → renewed.get? above = some .directory)
    (hbelow : ∀ relative, relative ≠ [] → renewed.get? (output ++ relative) = none) :
    Laid output renewed [] := by
  refine ⟨habove, holdsOutputs_nil (habove output (List.prefix_refl _)) hbelow, ?_⟩
  intro relative hrelative hfound
  rw [hbelow relative hrelative] at hfound
  cases hfound

theorem Buildable.source_ne_nil (h : Buildable tree source output) : source ≠ [] := by
  rintro rfl
  exact h.not_inside List.nil_prefix

theorem Buildable.mem_sources (h : Buildable tree source output) {file : SourceFile} :
    file ∈ tree.sources source ↔ file.Eligible tree source :=
  TaggedMarkup.mem_sources h.consistent.keyed h.source_ne_nil

theorem Buildable.target_ne_nil (h : Buildable tree source output) {file : SourceFile}
    (hmem : file ∈ tree.sources source) : file.target ≠ [] :=
  TaggedMarkup.target_ne_nil h.consistent.keyed h.source_ne_nil hmem

theorem Buildable.compatible (h : Buildable tree source output) {first second : SourceFile}
    (hfirst : first ∈ tree.sources source) (hsecond : second ∈ tree.sources source) :
    Compatible first.target second.target := by
  rw [h.mem_sources] at hfirst hsecond
  exact ⟨h.targets first second hfirst hsecond,
    fun hbegins => (h.targets second first hsecond hfirst hbegins).symm⟩

theorem Buildable.buildBetween_eq (h : Buildable tree source output) (platform : Platform)
    (options : EmitOptions) :
    ∃ renewed, buildBetween platform options source output tree =
      buildFiles platform options output (tree.sources source) { tree := renewed } ∧
      Laid output renewed [] := by
  have houtput : output ≠ [] := by
    rintro rfl
    exact h.not_above List.nil_prefix
  obtain ⟨renewed, hrenew, -, habove, hbelow, -⟩ :=
    FileTree.renewDirectory_spec h.consistent houtput h.passable
  refine ⟨renewed, ?_, laid_nil habove hbelow⟩
  have hseparate : source.isPrefixOf output = false := by
    rw [← Bool.not_eq_true, List.isPrefixOf_iff_prefix]
    exact h.not_inside
  rw [buildBetween, hseparate, hrenew,
    ← sources_of_renewed_apart h.consistent h.not_inside h.not_above hrenew]
  rfl

/-- The sources are written out up to the first that cannot be, and no file is in the way of that
one. -/
theorem Buildable.run (h : Buildable tree source output) (platform : Platform)
    (options : EmitOptions) :
    ∃ results next, Built.Advances platform options results { tree } next ∧
      Laid output next.tree results ∧
      ((results.map Prod.fst = tree.sources source ∧
          buildBetween platform options source output tree = next) ∨
        ∃ file later made, tree.sources source = results.map Prod.fst ++ file :: later ∧
          next.tree.Opens (output ++ file.target) made ∧
          buildBetween platform options source output tree =
            buildFile platform options output file next ∧
          (buildFile platform options output file next).error ≠ none) := by
  obtain ⟨renewed, hbuild, hlaid⟩ := h.buildBetween_eq platform options
  have hfresh : ({ tree := renewed } : Built).error = none := rfl
  obtain ⟨results, next, ⟨hemits, herror, hfiles, htemplates⟩, hlast, hends⟩ :=
    buildFiles_run platform options output (fun done tree => Laid output tree done)
      (tree.sources source) (fun done tree file emitted made hmem hdone _ hopens =>
        hdone.deposit (h.target_ne_nil hmem) hopens emitted) hfresh hlaid
  rw [List.nil_append] at hlast
  refine ⟨results, next, ⟨hemits, herror, hfiles, htemplates⟩, hlast, ?_⟩
  rw [hbuild]
  rcases hends with hall | ⟨file, later, hsplit, hstopped, hstops⟩
  · exact .inl hall
  · have hmem : ∀ result ∈ results, result.1 ∈ tree.sources source := by
      intro result hresult
      rw [hsplit]
      exact List.mem_append_left _ (List.mem_map_of_mem hresult)
    have hfile : file ∈ tree.sources source := by simp [hsplit]
    obtain ⟨made, hopens⟩ := hlast.opens (h.target_ne_nil hfile)
      fun result hresult => h.compatible (hmem result hresult) hfile
    exact .inr ⟨file, later, made, hsplit, hopens, hstopped, hstops⟩

/-- Where every text can be encoded, only a source that cannot be written out ends the build. -/
theorem Buildable.run_plain (h : Buildable tree source output) (parse : Text → SyntaxTree)
    (options : EmitOptions) :
    ∃ results rest next, Built.Advances (.plain parse) options results { tree } next ∧
      tree.sources source = results.map Prod.fst ++ rest ∧
      (∀ file ∈ rest.head?, ∃ error, file.emit (.plain parse) options = .error error) ∧
      HoldsOutputs next.tree output results ∧
      buildBetween (.plain parse) options source output tree =
        buildFiles (.plain parse) options output rest next := by
  obtain ⟨results, next, hadvances, hlaid, ⟨hall, hdone⟩ | ⟨file, later, made, hsplit, hopens,
    hstopped, hstops⟩⟩ := h.run (.plain parse) options
  · exact ⟨results, [], next, hadvances, by rw [List.append_nil, hall], by simp, hlaid.files, hdone⟩
  · refine ⟨results, file :: later, next, hadvances, hsplit, ?_, hlaid.files, ?_⟩
    · rintro _ ⟨⟩
      cases hemit : file.emit (.plain parse) options with
      | error error => exact ⟨error, rfl⟩
      | ok emitted =>
          rw [buildFile_of_encodable hemit hopens (Platform.encodable_plain parse _)] at hstops
          exact absurd hadvances.error hstops
    · rw [hstopped, buildFiles]
      obtain ⟨error, herror⟩ := Option.ne_none_iff_exists'.mp hstops
      simp only [herror]

end Between

theorem file_of_emit_error {platform : Platform} {options : EmitOptions} {file : SourceFile}
    {diagnostic : Diagnostic}
    (h : file.emit platform options = .error (.failed (.reported diagnostic))) :
    diagnostic.file = Path.join file.path := by
  rw [SourceFile.emit, emitBytes] at h
  split at h
  · rename_i code hcode
    rw [emit] at h
    split at h
    · cases h
    · split at h
      · rename_i result hresult
        rw [Transformed.emit] at h
        split at h
        · cases h
        · split at h
          · cases h
          · cases h
      · rename_i failure hfailure
        cases h
        exact file_of_reported hfailure
  · cases h

/-- A build visits the sources in order and leaves the outputs of those before the first that fails,
or of all, and nothing else in the output directory. -/
theorem build_leaves_outputs (parse : Text → SyntaxTree) (options : EmitOptions)
    (workingDirectory : Path) (source output : Text) (tree : FileTree)
    (hsource : tree.find? workingDirectory (Path.tidy source) = some .directory)
    (hplaces : Buildable tree (Path.resolve workingDirectory source)
      (Path.resolve workingDirectory output)) :
    let sourcePath := Path.resolve workingDirectory source
    let outputPath := Path.resolve workingDirectory output
    let files := tree.sources sourcePath
    let built := build (.plain parse) options workingDirectory source output tree
    files.Pairwise (fun first second => first.path < second.path) ∧
    (∀ file, file ∈ files ↔ file.Eligible tree sourcePath) ∧
    (∀ results, results.map Prod.fst = files → Emits (.plain parse) options results →
      built.error = none ∧ built.files = files.length ∧
      built.templates = (results.map (·.2.templates)).sum ∧
      HoldsOutputs built.tree outputPath results) ∧
    (∀ results file error later, files = results.map Prod.fst ++ file :: later →
      Emits (.plain parse) options results → file.emit (.plain parse) options = .error error →
      built.error = some (.emit error) ∧
      (∀ diagnostic, error = .failed (.reported diagnostic) →
        diagnostic.file = Path.join file.path) ∧
      HoldsOutputs built.tree outputPath results) := by
  intro sourcePath outputPath files built
  have hbuilt : built = buildBetween (.plain parse) options sourcePath outputPath tree :=
    if_pos hsource
  obtain ⟨written, rest, next, ⟨hwritten, hnone, hcount, hsum⟩, hsplit, hrest, hholds, hrun⟩ :=
    hplaces.run_plain parse options
  rw [Nat.zero_add] at hcount hsum
  refine ⟨sources_increasing hplaces.consistent.keyed, fun file => hplaces.mem_sources, ?_, ?_⟩
  · intro results hresults hemits
    have hall : files = results.map Prod.fst ++ [] := by rw [List.append_nil, hresults]
    obtain ⟨rfl, rfl⟩ := hwritten.unique hemits (hsplit.symm.trans hall) hrest (by simp)
    rw [buildFiles] at hrun
    rw [hbuilt, hrun, ← hresults, List.length_map]
    exact ⟨hnone, hcount, hsum, hholds⟩
  · intro results file error later hfiles hemits herror
    obtain ⟨rfl, rfl⟩ := hwritten.unique hemits (hsplit.symm.trans hfiles) hrest
      (by rintro _ ⟨⟩; exact ⟨error, herror⟩)
    rw [buildFiles, buildFile_of_error herror] at hrun
    rw [hbuilt, hrun]
    refine ⟨rfl, ?_, hholds⟩
    rintro diagnostic rfl
    exact file_of_emit_error herror

/-- A source directory with two sources that become one file, a hidden one and a last one, beside an
output directory with an old file. -/
def collidingTree (last : List UInt8) : FileTree where
  entries := [
    ([['s']], .directory),
    ([['s'], ['a', '.', 'j', 's']], .file (Utf8.encode "x;".toList)),
    ([['s'], ['a', '.', 'j', 's', 'x']], .file (Utf8.encode "f(<a/>)\r\n".toList)),
    ([['s'], ['.', 'h', '.', 'j', 's']], .file []),
    ([['s'], ['z', '.', 'm', 'j', 's']], .file last),
    ([['o']], .directory),
    ([['o'], ['b', '.', 'j', 's']], .file [])]

def collidingResults : List (SourceFile × Emitted) := [
  (⟨[['a', '.', 'j', 's']], [['a', '.', 'j', 's']], Utf8.encode "x;".toList⟩, ⟨"x;".toList, 0⟩),
  (⟨[['a', '.', 'j', 's', 'x']], [['a', '.', 'j', 's']], Utf8.encode "f(<a/>)\r\n".toList⟩,
    ⟨"f(html\x60<a/>\x60)\n".toList, 1⟩)]

def lastSource (last : List UInt8) : SourceFile :=
  ⟨[['z', '.', 'm', 'j', 's']], [['z', '.', 'm', 'j', 's']], last⟩

theorem collidingTree_consistent (last : List UInt8) : (collidingTree last).Consistent := by
  refine ⟨by simp [FileTree.Keyed, collidingTree], ?_⟩
  intro item hmem
  simp only [collidingTree, List.mem_cons, List.not_mem_nil, or_false] at hmem
  rcases hmem with rfl | rfl | rfl | rfl | rfl | rfl | rfl <;> rfl

theorem collidingTree_sources (last : List UInt8) :
    (collidingTree last).sources [['s']] =
      collidingResults.map Prod.fst ++ [lastSource last] := by
  have hfiles : ((collidingTree last).filesUnder [['s']]).filterMap SourceFile.ofFile? =
      collidingResults.map Prod.fst ++ [lastSource last] := rfl
  rw [FileTree.sources, hfiles, List.mergeSort_of_pairwise]
  simp [collidingResults, lastSource, Path.le, textLe]

theorem collidingTree_buildable (last : List UInt8) :
    Buildable (collidingTree last) [['s']] [['o']] where
  consistent := collidingTree_consistent last
  not_inside := by decide
  not_above := by decide
  passable := FileTree.passable_singleton fun bytes hfile => by cases hfile
  targets := by
    have hlength : ∀ file : SourceFile, file.Eligible (collidingTree last) [['s']] →
        file.target.length = 1 := by
      intro file hfile
      rw [← mem_sources (collidingTree_consistent last).keyed (by decide),
        collidingTree_sources] at hfile
      simp only [collidingResults, lastSource, List.map_cons, List.map_nil, List.cons_append,
        List.nil_append, List.mem_cons, List.not_mem_nil, or_false] at hfile
      rcases hfile with rfl | rfl | rfl <;> rfl
    intro first second hfirst hsecond hbegins
    exact hbegins.eq_of_length (by rw [hlength first hfirst, hlength second hsecond])

/-- With a last source that is fine, three are written with two templates, and two files are there;
with one that is not, the file of the first two. -/
theorem build_collidingTree :
    let last := Utf8.encode "<c/>".toList
    let broken := Utf8.encode "<c:d/>".toList
    let built := build (.plain Grammar.parse) {} [] ['s'] ['o'] (collidingTree last)
    let stopped := build (.plain Grammar.parse) {} [] ['s'] ['o'] (collidingTree broken)
    (built.error = none ∧ built.files = 3 ∧ built.templates = 2 ∧
      HoldsOutputs built.tree [['o']]
        (collidingResults ++ [(lastSource last, ⟨"html\x60<c/>\x60".toList, 1⟩)])) ∧
    (∃ error, stopped.error = some (.emit error) ∧
      HoldsOutputs stopped.tree [['o']] collidingResults) := by
  intro last broken built stopped
  have hsource : Path.resolve [] ['s'] = [['s']] := by decide
  have houtput : Path.resolve [] ['o'] = [['o']] := by decide
  have hemitted : Emits (.plain Grammar.parse) {}
        (collidingResults ++ [(lastSource last, ⟨"html\x60<c/>\x60".toList, 1⟩)]) ∧
      ((lastSource broken).emit (.plain Grammar.parse) {}).toOption = none := by
    unfold Emits
    decide +kernel
  have hwrites := fun last => build_leaves_outputs Grammar.parse {} [] ['s'] ['o']
    (collidingTree last) rfl (hsource.symm ▸ houtput.symm ▸ collidingTree_buildable last)
  simp only [hsource, houtput, collidingTree_sources] at hwrites
  constructor
  · obtain ⟨hnone, hcount, hsum, hholds⟩ := (hwrites last).2.2.1 _ (by simp) hemitted.1
    exact ⟨hnone, hcount, hsum, hholds⟩
  · cases hfails : (lastSource broken).emit (.plain Grammar.parse) {} with
    | ok emitted =>
        have hnone := hemitted.2
        rw [hfails] at hnone
        cases hnone
    | error error =>
        obtain ⟨hstopped, -, hholds⟩ := (hwrites broken).2.2.2 collidingResults
          (lastSource broken) error [] rfl
          (fun result hmem => hemitted.1 result (List.mem_append_left _ hmem)) hfails
        exact ⟨error, hstopped, hholds⟩

end TaggedMarkup
