import TaggedMarkup.Proofs.CommandLine.Delivery
import TaggedMarkup.Proofs.CommandLine.Standard
import TaggedMarkup.Proofs.Text.Utf8

/-!
# What compiling leaves behind

`compile` may stop at its arguments, at the file it reads, at the program, or at
the file it writes.  Wherever it stops, nothing is printed, and no file but the
one named for the result has changed.  That one is left empty if the text cannot
be encoded.  If the run does not stop, the file holds the text that is printed
without this option, as far as printing leaves it as it is.
-/

namespace TaggedMarkup.CommandLine

/-! ## Runs in order -/

def Unchanged (environment : Environment) (outcome : Outcome) : Prop :=
  ∀ path, outcome.files.get? path = environment.files.get? path

/-- Arguments of `compile` that say all that is said in a call, except where the result goes: it is
to be printed. -/
def Shell.WithoutOutput (shell : Shell) (environment : Environment) (call : Call)
    (arguments : List Text) : Prop :=
  ∃ plain, shell.read environment (compileName :: arguments) = .compile plain ∧
    Alike plain call ∧ plain.outputName = []

/-- A run that fails leaves the files alone and prints nothing.  One that does not changes at most
the file named for the result, which then holds what is printed without the option for it. -/
structure Shell.Orderly (shell : Shell) (environment : Environment) (arguments : List Text) :
    Prop where
  failed : (shell.run environment (compileName :: arguments)).exitCode ≠ 0 →
    Unchanged environment (shell.run environment (compileName :: arguments)) ∧
    (shell.run environment (compileName :: arguments)).output = []
  finished : (shell.run environment (compileName :: arguments)).exitCode = 0 →
    ∃ call, shell.read environment (compileName :: arguments) = .compile call ∧
      (call.outputName = [] →
        Unchanged environment (shell.run environment (compileName :: arguments))) ∧
      (call.outputName ≠ [] → ∃ path text,
        environment.files.locate environment.workingDirectory (Path.tidy call.outputName) =
          .ok path ∧
        (shell.run environment (compileName :: arguments)).files.get? path =
          some (.file (Utf8.encode text)) ∧
        (∀ other, other ≠ path →
          (shell.run environment (compileName :: arguments)).files.get? other =
            environment.files.get? other) ∧
        (∃ bare, shell.WithoutOutput environment call bare) ∧
        ∀ bare, shell.WithoutOutput environment call bare →
          shell.run environment (compileName :: bare) =
            { files := environment.files, output := text })

/-- A run is to write this text to this file. -/
def Shell.Saves (shell : Shell) (environment : Environment) (arguments : List Text) (path : Path)
    (text : Text) : Prop :=
  ∃ call, shell.read environment (compileName :: arguments) = .compile call ∧
    shell.WritesOut environment call text ∧ call.WritesTo environment path

section Compile

variable {shell : Shell} {environment : Environment} {arguments : List Text} {call : Call}
  {emitted : Emitted} {path : Path}

/-! ## How a run ends -/

theorem run_of_compile (hread : shell.read environment (compileName :: arguments) = .compile call) :
    shell.run environment (compileName :: arguments) = shell.runCompile environment call := by
  rw [Shell.run, hread, Shell.answer]

theorem saves_iff (hread : shell.read environment (compileName :: arguments) = .compile call)
    (hemit : shell.emitSource environment call = .ok emitted)
    (hto : call.WritesTo environment path) {place : Path} {text : Text} :
    shell.Saves environment arguments place text ↔ place = path ∧ text = emitted.code := by
  constructor
  · rintro ⟨called, hcalled, ⟨found, hfound, rfl⟩, hplace⟩
    obtain rfl := Request.compile.inj (hread.symm.trans hcalled)
    obtain rfl := Except.ok.inj (hemit.symm.trans hfound)
    exact ⟨hplace.unique hto, rfl⟩
  · rintro ⟨rfl, rfl⟩
    exact ⟨call, hread, ⟨emitted, hemit, rfl⟩, hto⟩

/-- A run stops before anything is written, or prints what the shell makes of the text, or writes to
the file named for it. -/
theorem run_cases (hoptions : shell.ReadsOptions) (hhelp : Switch.help.long ∉ arguments) :
    (Stopped environment (shell.run environment (compileName :: arguments)) ∧
      ∀ path text, ¬ shell.Saves environment arguments path text) ∨
    (∃ call printed, shell.read environment (compileName :: arguments) = .compile call ∧
      call.outputName = [] ∧
      shell.run environment (compileName :: arguments) =
        { files := environment.files, output := printed }) ∨
    ∃ call emitted path, shell.read environment (compileName :: arguments) = .compile call ∧
      shell.emitSource environment call = .ok emitted ∧ call.WritesTo environment path := by
  rcases hoptions.called environment arguments hhelp with ⟨error, herror⟩ | ⟨call, hread⟩
  · refine .inl ⟨?_, ?_⟩
    · rw [Shell.run, herror, Shell.answer]
      exact stopped_of_stop shell environment _
    · rintro path text ⟨call, hread, -⟩
      cases herror.symm.trans hread
  · have hrun := run_of_compile hread
    have hcall : ∀ {path text}, shell.Saves environment arguments path text →
        shell.WritesOut environment call text ∧ call.WritesTo environment path := by
      rintro path text ⟨called, hcalled, hsaves⟩
      obtain rfl := Request.compile.inj (hread.symm.trans hcalled)
      exact hsaves
    cases hemit : shell.emitSource environment call with
    | error stop =>
        refine .inl ⟨?_, fun path text hsaves => ?_⟩
        · rw [hrun]
          exact runCompile_stopped hemit
        · obtain ⟨⟨emitted, hok, -⟩, -⟩ := hcall hsaves
          cases hemit.symm.trans hok
    | ok emitted =>
        by_cases hname : call.outputName = []
        · rw [hrun, runCompile_print hemit hname]
          cases hecho : shell.echo emitted.code with
          | ok printed => exact .inr (.inl ⟨call, printed, hread, hname, print_of_ok hecho⟩)
          | error error =>
              exact .inl ⟨print_of_error hecho, fun path text hsaves =>
                (hcall hsaves).2.named hname⟩
        · by_cases hto : ∃ path, call.WritesTo environment path
          · obtain ⟨path, hto⟩ := hto
            exact .inr (.inr ⟨call, emitted, path, hread, hemit, hto⟩)
          · -- the file cannot be opened, so it was not emptied either
            rw [not_exists] at hto
            rw [hrun, runCompile_save hemit hname]
            exact .inl ⟨save_of_not_writesTo hname hto, fun path text hsaves =>
              hto path (hcall hsaves).2⟩

theorem orderly_of_stopped
    (h : Stopped environment (shell.run environment (compileName :: arguments))) :
    shell.Orderly environment arguments where
  failed _ := ⟨fun path => by rw [h.files], h.output⟩
  finished hzero := absurd ((Outcome.exitCode_eq_zero_iff _).mp hzero) h.stop

theorem orderly_of_printed {printed : Text}
    (hread : shell.read environment (compileName :: arguments) = .compile call)
    (hname : call.outputName = [])
    (hrun : shell.run environment (compileName :: arguments) =
      { files := environment.files, output := printed }) :
    shell.Orderly environment arguments where
  failed hcode := by
    rw [hrun] at hcode
    exact absurd rfl hcode
  finished _ := by
    refine ⟨call, hread, fun _ path => ?_, absurd hname⟩
    rw [hrun]

/-! ## Runs that write a file -/

theorem Shell.WithoutOutput.run_eq {bare : List Text}
    (h : shell.WithoutOutput environment call bare)
    (hemit : shell.emitSource environment call = .ok emitted) :
    shell.run environment (compileName :: bare) = shell.print environment emitted := by
  obtain ⟨plain, hplain, halike, hprinted⟩ := h
  rw [run_of_compile hplain]
  exact runCompile_print (halike.emitSource_eq.trans hemit) hprinted

theorem Shell.ReadsOptions.exists_withoutOutput (h : shell.ReadsOptions)
    (hread : shell.read environment (compileName :: arguments) = .compile call) :
    ∃ bare, shell.WithoutOutput environment call bare := by
  obtain ⟨bare, hbare⟩ := h.optional environment arguments call hread
  exact ⟨bare, _, hbare, call.withoutOutput_alike, call.outputName_withoutOutput⟩

/-- The file holds what is printed exactly if printing leaves the text as it is. -/
theorem orderly_iff_of_encodable (hoptions : shell.ReadsOptions)
    (hread : shell.read environment (compileName :: arguments) = .compile call)
    (hemit : shell.emitSource environment call = .ok emitted)
    (hto : call.WritesTo environment path) (hencodable : shell.Encodable emitted.code) :
    shell.Orderly environment arguments ↔ shell.echo emitted.code = .ok emitted.code := by
  have hrun := (run_of_compile hread).trans (runCompile_save hemit hto.named)
  obtain ⟨hstop, -, hfiles⟩ := save_of_encodable hto hencodable
  rw [← hrun] at hstop hfiles
  have hzero := (Outcome.exitCode_eq_zero_iff _).mpr hstop
  have hholds := FileTree.get?_insert_self environment.files hto.path_ne_nil
    (.file (Utf8.encode emitted.code))
  rw [← hfiles] at hholds
  constructor
  · intro horderly
    obtain ⟨called, hcalled, -, hnamed⟩ := horderly.finished hzero
    obtain rfl := Request.compile.inj (hread.symm.trans hcalled)
    obtain ⟨place, text, hplace, htext, -, ⟨bare, hbare⟩, hprints⟩ := hnamed hto.named
    obtain rfl := Except.ok.inj (hto.located.symm.trans hplace)
    rw [hholds, Option.some.injEq, Entry.file.injEq] at htext
    -- the file says what the text is that has to be printed
    obtain rfl := Utf8.encode_injective htext
    have hprinted := hprints bare hbare
    rw [hbare.run_eq hemit] at hprinted
    cases hecho : shell.echo emitted.code with
    | error error =>
        have hstopped : Stopped environment (shell.print environment emitted) :=
          print_of_error hecho
        rw [hprinted] at hstopped
        exact absurd rfl hstopped.stop
    | ok printed =>
        rw [print_of_ok hecho, Outcome.mk.injEq] at hprinted
        rw [hprinted.2.1]
  · intro hecho
    refine ⟨fun hcode => absurd hzero hcode, fun _ => ⟨call, hread, fun hname => ?_, fun _ => ?_⟩⟩
    · exact absurd hname hto.named
    · refine ⟨path, emitted.code, hto.located, hholds, fun other hother => ?_,
        hoptions.exists_withoutOutput hread, fun bare hbare => ?_⟩
      · rw [hfiles, FileTree.get?_insert_of_ne _ hother]
      · rw [hbare.run_eq hemit, print_of_ok hecho]

/-- A file that was left empty has changed, unless it was empty before. -/
theorem orderly_iff_of_not_encodable
    (hread : shell.read environment (compileName :: arguments) = .compile call)
    (hemit : shell.emitSource environment call = .ok emitted)
    (hto : call.WritesTo environment path) (hencodable : ¬ shell.Encodable emitted.code) :
    shell.Orderly environment arguments ↔ environment.files.get? path = some (.file []) := by
  have hrun := (run_of_compile hread).trans (runCompile_save hemit hto.named)
  obtain ⟨hstop, houtput, hfiles⟩ := save_of_not_encodable hto hencodable
  rw [← hrun] at hstop houtput hfiles
  have hcode := (not_congr (Outcome.exitCode_eq_zero_iff _)).mpr hstop
  constructor
  · intro horderly
    rw [← (horderly.failed hcode).1 path, hfiles]
    exact FileTree.get?_insert_self _ hto.path_ne_nil _
  · intro hempty
    refine ⟨fun _ => ⟨fun other => ?_, houtput⟩, fun hzero => absurd hzero hcode⟩
    rw [hfiles, FileTree.get?_insert hto.path_ne_nil]
    split
    · rename_i hself
      rw [hself, hempty]
    · rfl

theorem run_of_writesTo (hread : shell.read environment (compileName :: arguments) = .compile call)
    (hemit : shell.emitSource environment call = .ok emitted)
    (hto : call.WritesTo environment path) :
    (shell.run environment (compileName :: arguments)).output = [] ∧
      ∀ other, other ≠ path →
        (shell.run environment (compileName :: arguments)).files.get? other =
          environment.files.get? other := by
  rw [run_of_compile hread, runCompile_save hemit hto.named]
  by_cases hencodable : shell.Encodable emitted.code
  · obtain ⟨-, houtput, hfiles⟩ := save_of_encodable hto hencodable
    rw [houtput, hfiles]
    exact ⟨rfl, fun other hother => FileTree.get?_insert_of_ne _ hother _⟩
  · obtain ⟨-, houtput, hfiles⟩ := save_of_not_encodable hto hencodable
    rw [houtput, hfiles]
    exact ⟨rfl, fun other hother => FileTree.get?_insert_of_ne _ hother _⟩

theorem orderly_iff (hoptions : shell.ReadsOptions) (hhelp : Switch.help.long ∉ arguments) :
    shell.Orderly environment arguments ↔
      ∀ path text, shell.Saves environment arguments path text →
        (shell.Encodable text → shell.echo text = .ok text) ∧
        (¬ shell.Encodable text → environment.files.get? path = some (.file [])) := by
  rcases run_cases hoptions hhelp with ⟨hstopped, hnothing⟩ | ⟨call, printed, hread, hname, hrun⟩ |
    ⟨call, emitted, path, hread, hemit, hto⟩
  · exact iff_of_true (orderly_of_stopped hstopped) fun path text hsaves =>
      absurd hsaves (hnothing path text)
  · refine iff_of_true (orderly_of_printed hread hname hrun) ?_
    rintro path text ⟨called, hcalled, -, hto⟩
    obtain rfl := Request.compile.inj (hread.symm.trans hcalled)
    exact absurd hname hto.named
  · simp only [saves_iff hread hemit hto]
    by_cases hencodable : shell.Encodable emitted.code
    · rw [orderly_iff_of_encodable hoptions hread hemit hto hencodable]
      refine ⟨?_, fun h => (h path emitted.code ⟨rfl, rfl⟩).1 hencodable⟩
      rintro hecho _ _ ⟨rfl, rfl⟩
      exact ⟨fun _ => hecho, absurd hencodable⟩
    · rw [orderly_iff_of_not_encodable hread hemit hto hencodable]
      refine ⟨?_, fun h => (h path emitted.code ⟨rfl, rfl⟩).2 hencodable⟩
      rintro hempty _ _ ⟨rfl, rfl⟩
      exact ⟨fun h => absurd h hencodable, fun _ => hempty⟩

theorem output_eq_nil_of_exitCode (hoptions : shell.ReadsOptions)
    (hhelp : Switch.help.long ∉ arguments)
    (hcode : (shell.run environment (compileName :: arguments)).exitCode ≠ 0) :
    (shell.run environment (compileName :: arguments)).output = [] := by
  rcases run_cases hoptions hhelp with ⟨hstopped, -⟩ | ⟨_, _, -, -, hrun⟩ |
    ⟨_, _, _, hread, hemit, hto⟩
  · exact hstopped.output
  · refine absurd ?_ hcode
    rw [Outcome.exitCode_eq_zero_iff, hrun]
  · exact (run_of_writesTo hread hemit hto).1

theorem exists_saves_of_changed (hoptions : shell.ReadsOptions)
    (hhelp : Switch.help.long ∉ arguments)
    (hchanged : (shell.run environment (compileName :: arguments)).files.get? path ≠
      environment.files.get? path) :
    ∃ text, shell.Saves environment arguments path text := by
  rcases run_cases hoptions hhelp with ⟨hstopped, -⟩ | ⟨_, _, -, -, hrun⟩ |
    ⟨call, emitted, place, hread, hemit, hto⟩
  · rw [hstopped.files] at hchanged
    exact absurd rfl hchanged
  · rw [hrun] at hchanged
    exact absurd rfl hchanged
  · by_cases hplace : path = place
    · exact ⟨emitted.code, (saves_iff hread hemit hto).mpr ⟨hplace, rfl⟩⟩
    · exact absurd ((run_of_writesTo hread hemit hto).2 path hplace) hchanged

end Compile

/-- Compiling that ends with an exit code other than 0 prints nothing, and no run changes a file but
the one named for the result.  A run that fails leaves that file alone, and one that does not
leaves there what is printed without the option for it, exactly if the text can be encoded and
is printed as it is, or the file was empty and the text cannot be encoded.  Where standard output
is no terminal, a text is printed as it is exactly if there is no control sequence in it. -/
theorem compiling_in_order_iff (shell : Shell) (hoptions : shell.ReadsOptions)
    (environment : Environment) (arguments : List Text) (hhelp : Switch.help.long ∉ arguments) :
    let outcome := shell.run environment (compileName :: arguments)
    (outcome.exitCode ≠ 0 → outcome.output = []) ∧
    (∀ path, outcome.files.get? path ≠ environment.files.get? path →
      ∃ text, shell.Saves environment arguments path text) ∧
    (shell.Orderly environment arguments ↔
      ∀ path text, shell.Saves environment arguments path text →
        (shell.Encodable text → shell.echo text = .ok text) ∧
        (¬ shell.Encodable text → environment.files.get? path = some (.file []))) ∧
    (shell.Piped → (shell.Orderly environment arguments ↔
      ∀ path text, shell.Saves environment arguments path text →
        (shell.Encodable text → ¬ HoldsSequence text) ∧
        (¬ shell.Encodable text → environment.files.get? path = some (.file [])))) := by
  intro outcome
  have horderly : shell.Orderly environment arguments ↔ _ := orderly_iff hoptions hhelp
  refine ⟨output_eq_nil_of_exitCode hoptions hhelp,
    fun path => exists_saves_of_changed hoptions hhelp, horderly, fun hpiped => ?_⟩
  rw [horderly]
  refine forall_congr' fun path => forall_congr' fun text => imp_congr_right fun _ => ?_
  exact and_congr_left fun _ => imp_congr_right fun hencodable => hpiped.echo_eq_iff hencodable

def oneProgram : Environment where
  files := ⟨[(["a.jsx".toList], .file (Utf8.encode "x=<a/>\r\n".toList))]⟩

def overItself : List Text :=
  ["-oa.jsx".toList, "--tag=t".toList, "a.jsx".toList]

def overDirectory : List Text :=
  ["a.jsx".toList, "--output".toList, ".".toList]

theorem oneProgram_compiled :
    (Switch.help.long ∉ overItself ∧
      Shell.standard.Orderly oneProgram overItself ∧
      (Shell.standard.run oneProgram (compileName :: overItself)).exitCode = 0) ∧
    (Switch.help.long ∉ overDirectory ∧
      Shell.standard.Orderly oneProgram overDirectory ∧
      (Shell.standard.run oneProgram (compileName :: overDirectory)).exitCode ≠ 0 ∧
      (Shell.standard.run oneProgram (compileName :: overDirectory)).output = []) := by
  have hhelp : Switch.help.long ∉ overItself ∧ Switch.help.long ∉ overDirectory := by decide
  have hends : (Shell.standard.run oneProgram (compileName :: overItself)).exitCode = 0 ∧
      (Shell.standard.run oneProgram (compileName :: overDirectory)).exitCode ≠ 0 := by
    decide +kernel
  have hitself :=
    compiling_in_order_iff .standard standard_readsOptions oneProgram overItself hhelp.1
  have hdirectory :=
    compiling_in_order_iff .standard standard_readsOptions oneProgram overDirectory hhelp.2
  refine ⟨⟨hhelp.1, (hitself.2.2.2 standard_piped).mpr ?_, hends.1⟩,
    hhelp.2, (hdirectory.2.2.2 standard_piped).mpr ?_, hends.2, hdirectory.1 hends.2⟩
  · have hread : Shell.standard.read oneProgram (compileName :: overItself) =
        .compile ⟨"a.jsx".toList, [(.output, "a.jsx".toList), (.tag, ['t'])]⟩ := by decide
    have hemit : Shell.standard.emitSource oneProgram
          ⟨"a.jsx".toList, [(.output, "a.jsx".toList), (.tag, ['t'])]⟩ =
        .ok ⟨"x=t`<a/>`\n".toList, 1⟩ := by decide +kernel
    rintro path text ⟨call, hcall, ⟨emitted, hemitted, rfl⟩, -⟩
    obtain rfl := Request.compile.inj (hread.symm.trans hcall)
    obtain rfl := Except.ok.inj (hemit.symm.trans hemitted)
    refine ⟨fun _ => not_holdsSequence (by decide), fun hnot => ?_⟩
    exact absurd (Platform.encodable_plain _ _) hnot
  · have hread : Shell.standard.read oneProgram (compileName :: overDirectory) =
        .compile ⟨"a.jsx".toList, [(.output, ['.'])]⟩ := by decide
    rintro path text ⟨call, hcall, -, hto⟩
    obtain rfl := Request.compile.inj (hread.symm.trans hcall)
    obtain rfl := Except.ok.inj (hto.located : Except.ok [] = .ok path)
    exact absurd rfl hto.path_ne_nil

/-- A program that is transformed to `x=html` and a template with a control sequence. -/
def boldProgram : Environment where
  files := ⟨[]⟩
  input := .ok "x=<p>&#27;[1mb</p>".toList

/-- A shell where the replacement character stands for a byte that could not be decoded. -/
def byteShell : Shell :=
  { Shell.standard with undecoded? := fun c => if c = '\uFFFD' then some 0xff else none }

/-- A control sequence is in the file and not in what is printed, and a tag that cannot be encoded
leaves a run that fails with an empty file. -/
theorem boldProgram_saved_not_printed :
    let saved := Shell.standard.run boldProgram [compileName, "-ob.js".toList, "-".toList]
    let printed := Shell.standard.run boldProgram [compileName, "-".toList]
    let failed := byteShell.run oneProgram
      [compileName, "-oa.jsx".toList, "--tag=\uFFFD".toList, "a.jsx".toList]
    (saved.exitCode = 0 ∧
      saved.files.get? ["b.js".toList] =
        some (.file (Utf8.encode "x=html`<p>\x1b[1mb</p>`".toList)) ∧
      printed.output = "x=html`<p>b</p>`".toList) ∧
    (failed.exitCode ≠ 0 ∧ failed.files.get? ["a.jsx".toList] = some (.file [])) := by
  decide +kernel

end TaggedMarkup.CommandLine
