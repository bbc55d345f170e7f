import TaggedMarkup.CommandLine.Run
import TaggedMarkup.Proofs.Document.FileName

/-!
# Where the text of a program goes

The program that a call of `compile` names is read and transformed first; the
option for the output has no say in that.  Then its text is printed or written
to a file.  What appears in print is up to the shell, and a file is emptied
before the text is encoded.
-/

namespace TaggedMarkup.CommandLine

/-! ## Shells -/

def compileName : Text := "compile".toList

def Call.withoutOutput (call : Call) : Call :=
  { call with given := call.given.filter (·.1 ≠ .output) }

/-- How the lines of `compile` are read.  They are calls or misused, unless they ask for help, and
the option for the output may be left out. -/
structure Shell.ReadsOptions (shell : Shell) : Prop where
  called : ∀ environment arguments, Switch.help.long ∉ arguments →
    (∃ error, shell.read environment (compileName :: arguments) = .misuse error) ∨
    ∃ call, shell.read environment (compileName :: arguments) = .compile call
  optional : ∀ environment arguments call,
    shell.read environment (compileName :: arguments) = .compile call →
    ∃ bare, shell.read environment (compileName :: bare) = .compile call.withoutOutput

/-- A control sequence of terminals: an escape character, a bracket, parameters and a letter. -/
def IsSequence (text : Text) : Prop :=
  ∃ parameters letter, text = '\x1b' :: '[' :: (parameters ++ [letter]) ∧
    (∀ c ∈ parameters, c.isDigit = true ∨ c = ';' ∨ c = '?') ∧ letter.isAlpha = true

def HoldsSequence (text : Text) : Prop :=
  ∃ sequence, IsSequence sequence ∧ sequence <:+: text

theorem not_holdsSequence {text : Text} (h : '\x1b' ∉ text) : ¬ HoldsSequence text := by
  rintro ⟨_, ⟨parameters, letter, rfl, -, -⟩, hinside⟩
  exact h (hinside.subset List.mem_cons_self)

/-- How texts are printed where standard output is no terminal.  Control sequences are taken out,
and what cannot be encoded is not printed at all. -/
structure Shell.Piped (shell : Shell) : Prop where
  prints : ∀ text, shell.Encodable text → ¬ HoldsSequence text → shell.echo text = .ok text
  strips : ∀ text, HoldsSequence text → shell.echo text ≠ .ok text
  refuses : ∀ text, ¬ shell.Encodable text → ∃ error, shell.echo text = .error error

theorem Shell.Piped.echo_eq_iff {shell : Shell} (h : shell.Piped) {text : Text}
    (hencodable : shell.Encodable text) : shell.echo text = .ok text ↔ ¬ HoldsSequence text :=
  ⟨fun hprints hholds => h.strips text hholds hprints, h.prints text hencodable⟩

/-! ## Runs that stop -/

theorem Outcome.exitCode_eq_zero_iff (outcome : Outcome) :
    outcome.exitCode = 0 ↔ outcome.stop = none := by
  rw [Outcome.exitCode]
  cases outcome.stop with
  | none => simp
  | some stop => cases stop <;> simp [Stop.exitCode]

/-- A run stopped: the files are as they were, and nothing was printed. -/
structure Stopped (environment : Environment) (outcome : Outcome) : Prop where
  stop : outcome.stop ≠ none
  files : outcome.files = environment.files
  output : outcome.output = []

theorem stopped_of_stop (shell : Shell) (environment : Environment) (stop : Stop) :
    Stopped environment (shell.stopped environment.files [] stop) :=
  ⟨Option.some_ne_none stop, rfl, rfl⟩

/-! ## What a call writes out -/

/-- What calls say, except where the result goes. -/
structure Alike (first second : Call) : Prop where
  operand : first.operand = second.operand
  value? : ∀ switch, switch ≠ .output → first.value? switch = second.value? switch

theorem lookup_filter_output (given : List (Switch × Text)) {switch : Switch}
    (h : switch ≠ .output) :
    (given.filter (·.1 ≠ .output)).lookup switch = given.lookup switch := by
  induction given with
  | nil => rfl
  | cons option given ih =>
      obtain ⟨name, value⟩ := option
      by_cases hname : name = .output
      · subst hname
        have hother : (switch == Switch.output) = false := by simpa using h
        rw [List.filter_cons_of_neg (by simp), ih, List.lookup_cons, hother]
      · rw [List.filter_cons_of_pos (by simpa using hname), List.lookup_cons, List.lookup_cons, ih]

theorem Call.withoutOutput_alike (call : Call) : Alike call.withoutOutput call := by
  refine ⟨rfl, fun switch hother => ?_⟩
  rw [value?, withoutOutput, ← List.filter_reverse, lookup_filter_output _ hother, value?]

theorem Call.outputName_withoutOutput (call : Call) : call.withoutOutput.outputName = [] := by
  have hnone : call.withoutOutput.value? .output = none := by
    rw [value?, withoutOutput, List.lookup_eq_none_iff]
    intro option hmem
    have hother := (List.mem_filter.mp (List.mem_reverse.mp hmem)).2
    exact bne_iff_ne.mpr (of_decide_eq_true hother).symm
  rw [outputName, hnone]
  rfl

section Emit

variable {shell : Shell} {environment : Environment}

theorem Alike.emitOptions?_eq {first second : Call} (h : Alike first second) :
    first.emitOptions? = second.emitOptions? := by
  simp only [Call.emitOptions?, Call.has, h.value? .tag (by decide), h.value? .html (by decide),
    h.value? .importModule (by decide), h.value? .importExport (by decide)]

/-- All that decides what is written out are options other than the one for the output. -/
theorem Alike.emitSource_eq {first second : Call} (h : Alike first second) :
    shell.emitSource environment first = shell.emitSource environment second := by
  simp only [Shell.emitSource, Shell.emitText, h.operand, h.emitOptions?_eq]

/-- The text that a call is to print or to write to a file. -/
def Shell.WritesOut (shell : Shell) (environment : Environment) (call : Call) (text : Text) :
    Prop :=
  ∃ emitted, shell.emitSource environment call = .ok emitted ∧ emitted.code = text

/-- The file named for the result is in a directory and no directory itself. -/
structure Call.WritesTo (call : Call) (environment : Environment) (path : Path) : Prop where
  named : call.outputName ≠ []
  located : environment.files.locate environment.workingDirectory (Path.tidy call.outputName) =
    .ok path
  free : environment.files.get? path ≠ some .directory

theorem Call.WritesTo.path_ne_nil {call : Call} {path : Path}
    (h : call.WritesTo environment path) : path ≠ [] := by
  rintro rfl
  exact h.free (FileTree.get?_nil _)

theorem Call.WritesTo.unique {call : Call} {path other : Path}
    (h : call.WritesTo environment path) (hother : call.WritesTo environment other) :
    path = other :=
  Except.ok.inj (h.located.symm.trans hother.located)

/-! ## Printing and saving -/

variable {call : Call} {emitted : Emitted}

theorem runCompile_stopped {stop : Stop} (h : shell.emitSource environment call = .error stop) :
    Stopped environment (shell.runCompile environment call) := by
  rw [Shell.runCompile, h]
  exact stopped_of_stop shell environment stop

theorem runCompile_print (h : shell.emitSource environment call = .ok emitted)
    (hname : call.outputName = []) :
    shell.runCompile environment call = shell.print environment emitted := by
  rw [Shell.runCompile, h]
  exact if_pos hname

theorem runCompile_save (h : shell.emitSource environment call = .ok emitted)
    (hname : call.outputName ≠ []) :
    shell.runCompile environment call = shell.save environment call.outputName emitted := by
  rw [Shell.runCompile, h]
  exact if_neg hname

theorem print_of_ok {printed : Text} (h : shell.echo emitted.code = .ok printed) :
    shell.print environment emitted = { files := environment.files, output := printed } := by
  rw [Shell.print, h]

theorem print_of_error {error : EncodeError} (h : shell.echo emitted.code = .error error) :
    Stopped environment (shell.print environment emitted) := by
  rw [Shell.print, h]
  exact stopped_of_stop shell environment _

theorem save_of_encodable {path : Path} (hto : call.WritesTo environment path)
    (hencodable : shell.Encodable emitted.code) :
    let outcome := shell.save environment call.outputName emitted
    outcome.stop = none ∧ outcome.output = [] ∧
      outcome.files = environment.files.insert path (.file (Utf8.encode emitted.code)) := by
  rw [Shell.save, hto.located]
  dsimp only
  rw [Platform.writeText_of_encodable hto.free hencodable]
  exact ⟨rfl, rfl, rfl⟩

theorem save_of_not_encodable {path : Path} (hto : call.WritesTo environment path)
    (hencodable : ¬ shell.Encodable emitted.code) :
    let outcome := shell.save environment call.outputName emitted
    outcome.stop ≠ none ∧ outcome.output = [] ∧
      outcome.files = environment.files.insert path (.file []) := by
  obtain ⟨error, herror⟩ := Platform.writeText_of_not_encodable hto.free hencodable
  rw [Shell.save, hto.located]
  dsimp only
  rw [herror]
  exact ⟨Option.some_ne_none _, rfl, rfl⟩

theorem save_of_not_writesTo (hname : call.outputName ≠ [])
    (hto : ∀ path, ¬ call.WritesTo environment path) :
    Stopped environment (shell.save environment call.outputName emitted) := by
  rw [Shell.save]
  cases hpath : environment.files.locate environment.workingDirectory
      (Path.tidy call.outputName) with
  | error error => exact stopped_of_stop shell environment _
  | ok path =>
      have hoccupied : environment.files.get? path = some .directory := by
        by_contra hfree
        exact hto path ⟨hname, hpath, hfree⟩
      dsimp only
      rw [Platform.writeText_of_directory hoccupied]
      exact stopped_of_stop shell environment _

end Emit

end TaggedMarkup.CommandLine
