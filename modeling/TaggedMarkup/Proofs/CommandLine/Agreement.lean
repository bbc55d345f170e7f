import TaggedMarkup.Proofs.Build.Run
import TaggedMarkup.Proofs.CommandLine.Delivery
import TaggedMarkup.Proofs.CommandLine.Standard
import TaggedMarkup.Proofs.Files.Path
import TaggedMarkup.Proofs.Text.Utf8

/-!
# Two commands, one text

`compile` takes one program, `build` the sources below a directory.  With the
same options they make the same text of the same file, although they name it
differently and check the options in another order, and what stops the one
stops the other.  Only in print may the text come out as another.
-/

namespace TaggedMarkup

/-! ## What can be written out -/

theorem Transformed.emit_isOk_iff (options : EmitOptions) (result : Transformed) :
    (∃ emitted, result.emit options = .ok emitted) ↔
      (result.templates = 0 ∨ options.moduleName = [] ∨
        ImportStatement.isIdentifier options.importStatement.tag = true ∧
        ImportStatement.isIdentifier options.importStatement.exportedName = true) := by
  rw [← or_assoc, Transformed.emit]
  split
  case isTrue hplain => exact iff_of_true ⟨_, rfl⟩ (.inl hplain)
  case isFalse hplain =>
    rw [or_iff_right hplain, ImportStatement.inject?, ImportStatement.print?]
    cases ImportStatement.isIdentifier options.importStatement.tag with
    | false => simp [Except.map]
    | true =>
        cases ImportStatement.isIdentifier options.importStatement.exportedName with
        | false => simp [Except.map]
        | true => simp [Except.map]

namespace CommandLine

/-- The options name a tag, the bytes are a text that can be encoded, the program can be
transformed, and if it has templates to be imported, the names in the import are identifiers. -/
def Writable (platform : Platform) (call : Call) (bytes : List UInt8) : Prop :=
  ∃ options code result, call.emitOptions? = .ok options ∧ readText bytes = .ok code ∧
    platform.Encodable code ∧ transform platform options.settings [] code = .ok result ∧
    (result.templates = 0 ∨ options.moduleName = [] ∨
      ImportStatement.isIdentifier options.importStatement.tag = true ∧
      ImportStatement.isIdentifier options.importStatement.exportedName = true)

theorem writable_iff {platform : Platform} {call : Call} {bytes : List UInt8} (file : Text) :
    Writable platform call bytes ↔ ∃ emitted options, call.emitOptions? = .ok options ∧
      emitBytes platform options file bytes = .ok emitted := by
  constructor
  · rintro ⟨options, code, result, hoptions, hcode, hencodable, hresult, himported⟩
    obtain ⟨emitted, hemitted⟩ := (Transformed.emit_isOk_iff options result).mpr himported
    have hemit := emit_eq_ok.mpr ⟨hencodable, result, hresult, hemitted⟩
    exact ⟨emitted, options, hoptions, emitBytes_eq_ok.mpr ⟨code, hcode, emit_renamed hemit⟩⟩
  · rintro ⟨emitted, options, hoptions, hemit⟩
    obtain ⟨code, hcode, hemit⟩ := emitBytes_eq_ok.mp hemit
    obtain ⟨hencodable, result, hresult, hemitted⟩ := emit_eq_ok.mp (emit_renamed hemit)
    exact ⟨options, code, result, hoptions, hcode, hencodable, hresult,
      (Transformed.emit_isOk_iff options result).mp ⟨emitted, hemitted⟩⟩

/-! ## Compiling -/

structure NamesFile (environment : Environment) (call : Call) (bytes : List UInt8) : Prop where
  not_dash : call.operand ≠ dash
  found : environment.files.find? environment.workingDirectory call.operand = some (.file bytes)

/-- If a file is named for the result, it can be written. -/
def CanDeliver (environment : Environment) (call : Call) : Prop :=
  call.outputName ≠ [] → ∃ path, call.WritesTo environment path

/-- A text stands on standard output, or in the file named for it. -/
def Delivers (environment : Environment) (call : Call) (outcome : Outcome) (text : Text) : Prop :=
  (call.outputName = [] → outcome.output = text) ∧
  ∀ path, call.WritesTo environment path →
    outcome.files.get? path = some (.file (Utf8.encode text))

section Compile

variable {shell : Shell} {environment : Environment} {call : Call} {bytes : List UInt8}
  {emitted : Emitted}

theorem NamesFile.emitSource_eq_ok (h : NamesFile environment call bytes) :
    shell.emitSource environment call = .ok emitted ↔ ∃ options,
      call.emitOptions? = .ok options ∧
      emitBytes shell.toPlatform options call.operand bytes = .ok emitted := by
  rw [Shell.emitSource, if_neg h.not_dash, FileTree.find?_tidy h.found]
  dsimp only
  simp only [emitBytes_eq_ok]
  cases readText bytes with
  | error error => simp
  | ok code =>
      dsimp only
      rw [Shell.emitText]
      cases call.emitOptions? with
      | error error => simp
      | ok options =>
          dsimp only
          cases hemit : emit shell.toPlatform options call.operand code with
          | error error => simp [hemit]
          | ok emitted => simp [hemit]

/-- A call that names a file delivers the text if it can be encoded, and stops if not. -/
theorem runCompile_named (hemit : shell.emitSource environment call = .ok emitted)
    (hname : call.outputName ≠ []) (h : CanDeliver environment call) :
    ((shell.runCompile environment call).stop = none ↔ shell.Encodable emitted.code) ∧
    (shell.Encodable emitted.code →
      Delivers environment call (shell.runCompile environment call) emitted.code) := by
  obtain ⟨path, hto⟩ := h hname
  rw [runCompile_save hemit hname]
  by_cases hencodable : shell.Encodable emitted.code
  · obtain ⟨hstop, -, hfiles⟩ := save_of_encodable hto hencodable
    refine ⟨iff_of_true hstop hencodable, fun _ => ⟨fun h => absurd h hname, ?_⟩⟩
    intro place hplace
    rw [hfiles, hplace.unique hto]
    exact FileTree.get?_insert_self _ hto.path_ne_nil _
  · obtain ⟨hstop, -⟩ := save_of_not_encodable hto hencodable
    exact ⟨iff_of_false hstop hencodable, fun h => absurd h hencodable⟩

theorem runCompile_unnamed (hemit : shell.emitSource environment call = .ok emitted)
    (hname : call.outputName = []) :
    ((shell.runCompile environment call).stop = none ↔
      ∃ printed, shell.echo emitted.code = .ok printed) ∧
    ∀ text, shell.echo emitted.code = .ok text →
      ∀ other, Delivers environment call (shell.runCompile environment call) other ↔
        other = text := by
  rw [runCompile_print hemit hname]
  cases hecho : shell.echo emitted.code with
  | error error =>
      have hstopped : Stopped environment (shell.print environment emitted) := print_of_error hecho
      simp [hstopped.stop]
  | ok printed =>
      rw [print_of_ok hecho]
      refine ⟨by simp, ?_⟩
      rintro _ ⟨⟩ other
      refine ⟨fun hdelivers => (hdelivers.1 hname).symm, ?_⟩
      rintro rfl
      exact ⟨fun _ => rfl, fun path hto => absurd hname hto.named⟩

end Compile

end CommandLine

/-! ## Building -/

/-- A directory with one source, and apart from it another to which the way is free. -/
structure OnlySource (tree : FileTree) (source output : Path) (file : SourceFile) : Prop where
  consistent : tree.Consistent
  not_inside : ¬ source <+: output
  not_above : ¬ output <+: source
  passable : tree.Passable output
  eligible : file.Eligible tree source
  only : ∀ other : SourceFile, other.Eligible tree source → other = file

section OnlySource

variable {tree : FileTree} {source output : Path} {file : SourceFile} {platform : Platform}
  {options : EmitOptions}

theorem OnlySource.buildable (h : OnlySource tree source output file) :
    Buildable tree source output where
  consistent := h.consistent
  not_inside := h.not_inside
  not_above := h.not_above
  passable := h.passable
  targets first second hfirst hsecond _ := by rw [h.only first hfirst, h.only second hsecond]

theorem OnlySource.sources_eq (h : OnlySource tree source output file) :
    tree.sources source = [file] := by
  have hmem : ∀ other, other ∈ tree.sources source ↔ other = file := by
    intro other
    rw [h.buildable.mem_sources]
    refine ⟨h.only other, ?_⟩
    rintro rfl
    exact h.eligible
  have hperm : (tree.sources source).Perm [file] :=
    (List.perm_ext_iff_of_nodup (sources_nodup h.consistent.keyed)
      (List.nodup_singleton file)).mpr (by simpa using hmem)
  exact List.perm_singleton.mp hperm

theorem OnlySource.target_ne_nil (h : OnlySource tree source output file) : file.target ≠ [] :=
  h.buildable.target_ne_nil (by simp [h.sources_eq] : file ∈ tree.sources source)

/-- The build is one step, and the file of the source can be opened. -/
theorem OnlySource.buildBetween_eq (h : OnlySource tree source output file) (platform : Platform)
    (options : EmitOptions) :
    ∃ renewed made, renewed.Opens (output ++ file.target) made ∧
      buildBetween platform options source output tree =
        buildFile platform options output file { tree := renewed } := by
  obtain ⟨renewed, hbuild, hlaid⟩ := h.buildable.buildBetween_eq platform options
  obtain ⟨made, hopens⟩ := hlaid.opens h.target_ne_nil (by simp)
  refine ⟨renewed, made, hopens, ?_⟩
  rw [hbuild, h.sources_eq, buildFiles]
  cases (buildFile platform options output file { tree := renewed }).error with
  | none => simp only [buildFiles]
  | some error => simp only

theorem OnlySource.build_of_ok (h : OnlySource tree source output file) {emitted : Emitted}
    (hemit : file.emit platform options = .ok emitted)
    (hencodable : platform.Encodable emitted.code) :
    (buildBetween platform options source output tree).error = none ∧
      (buildBetween platform options source output tree).tree.get? (output ++ file.target) =
        some (.file (Utf8.encode emitted.code)) := by
  obtain ⟨renewed, made, hopens, hbuild⟩ := h.buildBetween_eq platform options
  rw [hbuild, buildFile_of_encodable hemit hopens hencodable]
  exact ⟨rfl, FileTree.get?_insert_self _ (by simp [h.target_ne_nil]) _⟩

theorem OnlySource.build_error_eq_none (h : OnlySource tree source output file) :
    (buildBetween platform options source output tree).error = none ↔
      ∃ emitted, file.emit platform options = .ok emitted ∧ platform.Encodable emitted.code := by
  constructor
  · obtain ⟨renewed, made, hopens, hbuild⟩ := h.buildBetween_eq platform options
    rw [hbuild]
    intro hnone
    cases hemit : file.emit platform options with
    | error error =>
        rw [buildFile_of_error hemit] at hnone
        cases hnone
    | ok emitted =>
        refine ⟨emitted, rfl, ?_⟩
        by_contra hencodable
        have hfree : ({ tree := renewed } : Built).tree.Opens (output ++ file.target) made := hopens
        obtain ⟨error, herror⟩ := buildFile_of_not_encodable hemit hfree hencodable
        rw [herror] at hnone
        cases hnone
  · rintro ⟨emitted, hemit, hencodable⟩
    exact (h.build_of_ok hemit hencodable).1

end OnlySource

namespace CommandLine

def NamesDirectory (environment : Environment) (call : Call) : Prop :=
  environment.files.find? environment.workingDirectory call.operand = some .directory

section Build

variable {shell : Shell} {environment : Environment} {call : Call}

theorem NamesDirectory.build_eq (h : NamesDirectory environment call) (platform : Platform)
    (options : EmitOptions) (output : Text) :
    build platform options environment.workingDirectory call.operand output environment.files =
      buildBetween platform options (Path.resolve environment.workingDirectory call.operand)
        (Path.resolve environment.workingDirectory output) environment.files :=
  if_pos (FileTree.find?_tidy h)

theorem runBuild_of_ok {options : EmitOptions} (hoptions : call.emitOptions? = .ok options)
    (hbuilt : (build shell.toPlatform options environment.workingDirectory call.operand
      call.outputDirectory environment.files).error = none) :
    (shell.runBuild environment call).stop = none ∧
      (shell.runBuild environment call).files =
        (build shell.toPlatform options environment.workingDirectory call.operand
          call.outputDirectory environment.files).tree := by
  rw [Shell.runBuild, hoptions]
  dsimp only
  rw [hbuilt]
  exact ⟨rfl, rfl⟩

theorem runBuild_stop_eq_none :
    (shell.runBuild environment call).stop = none ↔ ∃ options, call.emitOptions? = .ok options ∧
      (build shell.toPlatform options environment.workingDirectory call.operand
        call.outputDirectory environment.files).error = none := by
  refine ⟨fun hstop => ?_, fun ⟨options, hoptions, hbuilt⟩ => (runBuild_of_ok hoptions hbuilt).1⟩
  rw [Shell.runBuild] at hstop
  cases hoptions : call.emitOptions? with
  | error error =>
      rw [hoptions] at hstop
      cases hstop
  | ok options =>
      refine ⟨options, rfl, ?_⟩
      rw [hoptions] at hstop
      dsimp only at hstop
      split at hstop
      · cases hstop
      · assumption

end Build

/-! ## Agreement -/

theorem build_delivers {shell : Shell} {environment : Environment} {compiling building : Call}
    {file : SourceFile} (hoptions : compiling.emitOptions? = building.emitOptions?)
    (hfile : NamesFile environment compiling file.bytes)
    (hdirectory : NamesDirectory environment building)
    (honly : OnlySource environment.files
      (Path.resolve environment.workingDirectory building.operand)
      (Path.resolve environment.workingDirectory building.outputDirectory) file) :
    ((shell.runBuild environment building).stop = none ↔ ∃ emitted,
      shell.emitSource environment compiling = .ok emitted ∧ shell.Encodable emitted.code) ∧
    ∀ emitted, shell.emitSource environment compiling = .ok emitted →
      shell.Encodable emitted.code →
      (shell.runBuild environment building).files.get?
          (Path.resolve environment.workingDirectory building.outputDirectory ++ file.target) =
        some (.file (Utf8.encode emitted.code)) := by
  constructor
  · rw [runBuild_stop_eq_none]
    simp only [hdirectory.build_eq, honly.build_error_eq_none, hfile.emitSource_eq_ok, ← hoptions]
    constructor
    · rintro ⟨options, hgiven, emitted, hemit, hencodable⟩
      exact ⟨emitted, ⟨options, hgiven, emitBytes_renamed hemit⟩, hencodable⟩
    · rintro ⟨emitted, ⟨options, hgiven, hemit⟩, hencodable⟩
      exact ⟨options, hgiven, emitted, emitBytes_renamed hemit, hencodable⟩
  · intro emitted hemit hencodable
    obtain ⟨options, hgiven, hemit⟩ := hfile.emitSource_eq_ok.mp hemit
    obtain ⟨hnone, hwritten⟩ := honly.build_of_ok (emitBytes_renamed hemit) hencodable
    rw [← hdirectory.build_eq] at hnone hwritten
    rw [(runBuild_of_ok (hoptions ▸ hgiven) hnone).2]
    exact hwritten

/-- Both commands finish or both stop, and if they finish, the text that `compile` delivers is in
the file that `build` writes. -/
structure Agreeing (environment : Environment) (compiling : Call) (target : Path)
    (compiled built : Outcome) : Prop where
  together : compiled.stop = none ↔ built.stop = none
  same : compiled.stop = none → ∃ text, Delivers environment compiling compiled text ∧
    built.files.get? target = some (.file (Utf8.encode text))

/-- A text is printed as it is if it can be encoded, and not at all if not. -/
structure Shell.Faithful (shell : Shell) (text : Text) : Prop where
  prints : shell.Encodable text → shell.echo text = .ok text
  refuses : ¬ shell.Encodable text → ∃ error, shell.echo text = .error error

theorem Shell.Piped.faithful_iff {shell : Shell} (h : shell.Piped) {text : Text} :
    shell.Faithful text ↔ (shell.Encodable text → ¬ HoldsSequence text) := by
  constructor
  · intro hfaithful hencodable
    exact (h.echo_eq_iff hencodable).mp (hfaithful.prints hencodable)
  · intro hplain
    exact ⟨fun hencodable => (h.echo_eq_iff hencodable).mpr (hplain hencodable), h.refuses text⟩

/-- Whatever is printed, the commands agree as far as printing is faithful to the text. -/
theorem agreeing_iff {shell : Shell} {environment : Environment} {compiling : Call}
    {target : Path} {built : Outcome} (hdelivers : CanDeliver environment compiling)
    (hbuilt : built.stop = none ↔ ∃ emitted,
      shell.emitSource environment compiling = .ok emitted ∧ shell.Encodable emitted.code)
    (hwritten : ∀ emitted, shell.emitSource environment compiling = .ok emitted →
      shell.Encodable emitted.code →
      built.files.get? target = some (.file (Utf8.encode emitted.code))) :
    Agreeing environment compiling target (shell.runCompile environment compiling) built ↔
      compiling.outputName ≠ [] ∨
        ∀ text, shell.WritesOut environment compiling text → shell.Faithful text := by
  cases hemit : shell.emitSource environment compiling with
  | error stop =>
      -- there is no text, and both commands stop
      have hstop := (runCompile_stopped hemit).stop
      have hnone : ¬ built.stop = none := by simp [hbuilt, hemit]
      refine iff_of_true ⟨iff_of_false hstop hnone, fun h => absurd h hstop⟩ (.inr ?_)
      rintro text ⟨emitted, hok, -⟩
      cases hemit.symm.trans hok
  | ok emitted =>
      have hencodes : built.stop = none ↔ shell.Encodable emitted.code := by simp [hbuilt, hemit]
      by_cases hname : compiling.outputName = []
      · have hwrites : (∀ text, shell.WritesOut environment compiling text →
            shell.Faithful text) ↔ shell.Faithful emitted.code := by
          simp [Shell.WritesOut, hemit]
        obtain ⟨hprints, hprinted⟩ := runCompile_unnamed hemit hname
        rw [or_iff_right (not_not_intro hname), hwrites]
        constructor
        · rintro ⟨htogether, hsame⟩
          refine ⟨fun hencodable => ?_, fun hencodable => ?_⟩
          · have hfinished := htogether.mpr (hencodes.mpr hencodable)
            obtain ⟨printed, hecho⟩ := hprints.mp hfinished
            obtain ⟨text, hdelivered, htext⟩ := hsame hfinished
            rw [hwritten emitted hemit hencodable, Option.some.injEq, Entry.file.injEq] at htext
            rw [hecho, Utf8.encode_injective htext, (hprinted printed hecho text).mp hdelivered]
          · cases hecho : shell.echo emitted.code with
            | error error => exact ⟨error, rfl⟩
            | ok printed =>
                have hfinished := htogether.mp (hprints.mpr ⟨printed, hecho⟩)
                exact absurd (hencodes.mp hfinished) hencodable
        · rintro ⟨hfaithful, hrefuses⟩
          by_cases hencodable : shell.Encodable emitted.code
          · have hecho := hfaithful hencodable
            refine ⟨iff_of_true (hprints.mpr ⟨_, hecho⟩) (hencodes.mpr hencodable), fun _ => ?_⟩
            exact ⟨emitted.code, (hprinted _ hecho _).mpr rfl, hwritten emitted hemit hencodable⟩
          · obtain ⟨error, herror⟩ := hrefuses hencodable
            have hstop : ¬ (shell.runCompile environment compiling).stop = none := by
              simp [hprints, herror]
            exact ⟨iff_of_false hstop (hencodes.not.mpr hencodable), fun h => absurd h hstop⟩
      · -- both files take the text as it is, so printing does not matter
        obtain ⟨hended, hdelivered⟩ := runCompile_named hemit hname hdelivers
        refine iff_of_true ⟨hended.trans hencodes.symm, fun hfinished => ?_⟩ (.inl hname)
        have hencodable := hended.mp hfinished
        exact ⟨emitted.code, hdelivered hencodable, hwritten emitted hemit hencodable⟩

/-- With the same options, `compile` of a file and `build` of a directory where it is the only
source deliver the same text, and each fails exactly when the other does, if the text goes to a
file, or if printing is faithful to it.  Where standard output is no terminal, that is a text with
no control sequence in it. -/
theorem compile_agrees_with_build_iff (shell : Shell) (environment : Environment)
    (compileLine buildLine : List Text) (compiling building : Call) (file : SourceFile)
    (hcompile : shell.read environment compileLine = .compile compiling)
    (hbuild : shell.read environment buildLine = .build building)
    (hoptions : compiling.emitOptions? = building.emitOptions?)
    (hfile : NamesFile environment compiling file.bytes)
    (hdelivers : CanDeliver environment compiling)
    (hdirectory : NamesDirectory environment building)
    (honly : OnlySource environment.files
      (Path.resolve environment.workingDirectory building.operand)
      (Path.resolve environment.workingDirectory building.outputDirectory) file) :
    let compiled := shell.run environment compileLine
    let built := shell.run environment buildLine
    let target :=
      Path.resolve environment.workingDirectory building.outputDirectory ++ file.target
    (Agreeing environment compiling target compiled built ↔ compiling.outputName ≠ [] ∨
      ∀ text, shell.WritesOut environment compiling text → shell.Faithful text) ∧
    (shell.Piped →
      (Agreeing environment compiling target compiled built ↔ compiling.outputName ≠ [] ∨
        ∀ text, shell.WritesOut environment compiling text → shell.Encodable text →
          ¬ HoldsSequence text)) ∧
    (built.stop = none ↔
      ∃ text, shell.WritesOut environment compiling text ∧ shell.Encodable text) ∧
    ((∃ text, shell.WritesOut environment compiling text) ↔
      Writable shell.toPlatform compiling file.bytes) := by
  intro compiled built target
  have hcompiled : compiled = shell.runCompile environment compiling :=
    congrArg (shell.answer environment) hcompile
  have hbuilt : built = shell.runBuild environment building :=
    congrArg (shell.answer environment) hbuild
  obtain ⟨hfinished, hwritten⟩ := build_delivers hoptions hfile hdirectory honly
  rw [← hbuilt] at hfinished hwritten
  have hagree := agreeing_iff hdelivers hfinished hwritten
  rw [← hcompiled] at hagree
  refine ⟨hagree, fun hpiped => ?_, ?_, ?_⟩
  · exact hagree.trans (or_congr_right (forall₂_congr fun text _ => hpiped.faithful_iff))
  · rw [hfinished]
    simp [Shell.WritesOut]
  · rw [writable_iff compiling.operand]
    simp [Shell.WritesOut, hfile.emitSource_eq_ok]

def oneSource : Environment where
  files := ⟨[([['s']], .directory),
    ([['s'], ['a', '.', 'j', 's', 'x']], .file (Utf8.encode "x=<a/>\r\n".toList))]⟩

def onlyFile : SourceFile :=
  ⟨[['a', '.', 'j', 's', 'x']], [['a', '.', 'j', 's']], Utf8.encode "x=<a/>\r\n".toList⟩

def savingOne : Call :=
  ⟨"s/./a.jsx".toList, [(.output, ['r']), (.importModule, ['m'])]⟩

def printingOne : Call :=
  ⟨"s/./a.jsx".toList, [(.importModule, ['m'])]⟩

def buildingOne : Call :=
  ⟨['s'], [(.outDir, ['o']), (.importModule, ['m'])]⟩

theorem oneSource_onlySource : OnlySource oneSource.files [['s']] [['o']] onlyFile := by
  have htree : oneSource.files.Consistent := by decide
  have hsources : oneSource.files.sources [['s']] = [onlyFile] := by
    rw [FileTree.sources, show (oneSource.files.filesUnder [['s']]).filterMap SourceFile.ofFile? =
      [onlyFile] from rfl, List.mergeSort_singleton]
  have heligible : ∀ file : SourceFile,
      file.Eligible oneSource.files [['s']] ↔ file = onlyFile := by
    intro file
    rw [← mem_sources htree.keyed (by decide), hsources, List.mem_singleton]
  have hfree : oneSource.files.Passable [['o']] :=
    FileTree.passable_singleton fun bytes hfile => by cases hfile
  exact ⟨htree, by decide, by decide, hfree, (heligible onlyFile).mpr rfl,
    fun file => (heligible file).mp⟩

def saveOneLine : List Text :=
  ["compile".toList, "s/./a.jsx".toList, "-or".toList, "--import-module=m".toList]

def printOneLine : List Text :=
  ["compile".toList, "s/./a.jsx".toList, "--import-module".toList, "m".toList]

def buildOneLine : List Text :=
  ["build".toList, "s".toList, "--out-dir=o".toList, "--import-module=m".toList]

theorem oneSource_agreeing :
    let target := [['o'], ['a', '.', 'j', 's']]
    let saved := Shell.standard.run oneSource saveOneLine
    let printed := Shell.standard.run oneSource printOneLine
    let built := Shell.standard.run oneSource buildOneLine
    built.stop = none ∧ Agreeing oneSource savingOne target saved built ∧
      Agreeing oneSource printingOne target printed built ∧
      printed.output = "import { html } from \"m\";\n\nx=html`<a/>`\n".toList := by
  intro target saved printed built
  have hsave : Shell.standard.read oneSource saveOneLine = .compile savingOne := by decide
  have hprint : Shell.standard.read oneSource printOneLine = .compile printingOne := by decide
  have hbuild : Shell.standard.read oneSource buildOneLine = .build buildingOne := by decide
  have hdirectory : NamesDirectory oneSource buildingOne := rfl
  have hemit : Shell.standard.emitSource oneSource printingOne =
      .ok ⟨"import { html } from \"m\";\n\nx=html`<a/>`\n".toList, 1⟩ := by decide +kernel
  obtain ⟨hsaves, -⟩ := compile_agrees_with_build_iff .standard oneSource saveOneLine buildOneLine
    savingOne buildingOne onlyFile hsave hbuild rfl ⟨by decide, by decide⟩
    (fun _ => ⟨[['r']], by decide, by decide, by decide⟩) hdirectory oneSource_onlySource
  obtain ⟨-, hprints, hbuilt, -⟩ := compile_agrees_with_build_iff .standard oneSource printOneLine
    buildOneLine printingOne buildingOne onlyFile hprint hbuild rfl ⟨by decide, by decide⟩
    (fun h => absurd rfl h) hdirectory oneSource_onlySource
  refine ⟨hbuilt.mpr ⟨_, ⟨_, hemit, rfl⟩, Platform.encodable_plain _ _⟩,
    hsaves.mpr (.inl (by decide)), (hprints standard_piped).mpr (.inr ?_), ?_⟩
  · rintro _ ⟨emitted, hemitted, rfl⟩ -
    obtain rfl := Except.ok.inj (hemit.symm.trans hemitted)
    exact not_holdsSequence (by decide)
  · decide +kernel

/-- A directory with one source that is transformed to a text with a control sequence. -/
def boldSource : Environment where
  files := ⟨[([['s']], .directory),
    ([['s'], ['a', '.', 'j', 's', 'x']],
      .file (Utf8.encode "x=<p>&#27;[1mb</p>".toList))]⟩

/-- A control sequence is in the file that is built and not in what is printed. -/
theorem boldSource_built_not_printed :
    let printed := Shell.standard.run boldSource ["compile".toList, "s/a.jsx".toList]
    let built := Shell.standard.run boldSource ["build".toList, "s".toList, "--out-dir=o".toList]
    printed.stop = none ∧ printed.output = "x=html`<p>b</p>`".toList ∧
    built.stop = none ∧ built.files.get? [['o'], ['a', '.', 'j', 's']] =
      some (.file (Utf8.encode "x=html`<p>\x1b[1mb</p>`".toList)) := by
  decide +kernel

end CommandLine

end TaggedMarkup
