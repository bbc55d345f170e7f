import TaggedMarkup.Build
import TaggedMarkup.CommandLine.Call

/-!
# Commands

`compile` transforms one program, `build` the sources below a directory. `Shell.run` says what a
command line prints, how it leaves the files, and how it ends. How the line is read and what becomes
of texts that are printed is up to the shell.
-/

namespace TaggedMarkup.CommandLine

structure Shell extends Platform where
  /-- What a line asks for. Operands are checked against the files. -/
  read : Environment → List Text → Request
  /-- What appears on standard output when a text is printed there. -/
  echo : Text → Except EncodeError Text
  /-- How a message is laid out. -/
  console : Text → Text

/-- What ends a command that was not prepared for it. -/
inductive Breakdown where
  | storage (error : FileTree.Error)
  | unencodable (error : EncodeError)
  | failure (cause : Failure)
  deriving DecidableEq, Repr

def Breakdown.ofWrite : WriteError → Breakdown
  | .storage error => .storage error
  | .unencodable error => .unencodable error

def Breakdown.message : Breakdown → String
  | .storage error => error.message
  | .unencodable error => error.message
  | .failure cause => cause.message

inductive Stop where
  | reported (diagnostic : Diagnostic)
  | misused (error : UsageError)
  | broken (breakdown : Breakdown)
  deriving DecidableEq, Repr

namespace Stop

def exitCode : Stop → Nat
  | .reported _ => 1
  | .misused _ => 2
  | .broken _ => 1

/-- Why a program is not written out; the reason may be put down to an argument. -/
def ofEmit (argument : Option String) (error : EmitError) : Stop :=
  match error with
  | .failed (.reported diagnostic) => .reported diagnostic
  | .failed (.blank place) => .broken (.failure (.blank place))
  | .failed .missingPart => .broken (.failure .missingPart)
  | _ => .misused (.invalid (.refused argument error.message))

end Stop

structure Outcome where
  files : FileTree
  output : Text := []
  errors : Text := []
  stop : Option Stop := none

def Outcome.exitCode (outcome : Outcome) : Nat :=
  match outcome.stop with
  | none => 0
  | some stop => stop.exitCode

def Call.emitOptions? (call : Call) : Except Settings.Error EmitOptions :=
  let tag := (call.value? .tag).getD "html".toList
  (Settings.make? tag (call.has .html)).map fun settings =>
    { settings
      moduleName := (call.value? .importModule).getD []
      exported := (call.value? .importExport).getD [] }

namespace Shell

variable (shell : Shell) (environment : Environment)

def stopped (files : FileTree) (output : Text) (stop : Stop) : Outcome :=
  { files
    output
    errors := match stop with
      | .reported diagnostic => shell.console s!"error {diagnostic.render}\n".toList
      | _ => []
    stop := some stop }

/-! ## Compiling one program -/

def emitText (call : Call) (file code : Text) : Except Stop Emitted :=
  match call.emitOptions? with
  | .error error => .error (.misused (.invalid (.refused none error.message)))
  | .ok options =>
    match emit shell.toPlatform options file code with
    | .error error => .error (.ofEmit none error)
    | .ok emitted => .ok emitted

def emitSource (call : Call) : Except Stop Emitted :=
  if call.operand = dash then
    match environment.input with
    | .error error => .error (.broken (.failure (.undecodable error)))
    -- line ends are folded here too, as they are in a file
    | .ok text => shell.emitText call "<stdin>".toList (foldLineEnds text)
  else
    match environment.files.find? environment.workingDirectory (Path.tidy call.operand) with
    | none => .error (.misused (.invalid (.missingFile "SOURCE" call.operand)))
    | some .directory => .error (.broken (.storage .isDirectory))
    | some (.file bytes) =>
      match readText bytes with
      | .error error => .error (.broken (.failure (.undecodable error)))
      | .ok code => shell.emitText call call.operand code

def print (emitted : Emitted) : Outcome :=
  match shell.echo emitted.code with
  | .error error => shell.stopped environment.files [] (.broken (.unencodable error))
  | .ok printed => { files := environment.files, output := printed }

def save (name : Text) (emitted : Emitted) : Outcome :=
  match environment.files.locate environment.workingDirectory (Path.tidy name) with
  | .error error => shell.stopped environment.files [] (.broken (.storage error))
  | .ok path =>
    let stored := shell.writeText environment.files path emitted.code
    match stored.error with
    | some error => shell.stopped stored.tree [] (.broken (.ofWrite error))
    | none =>
      let message := s!"✅ Wrote {String.ofList name} ({emitted.templates} template(s))\n"
      { files := stored.tree, errors := shell.console message.toList }

def runCompile (call : Call) : Outcome :=
  match shell.emitSource environment call with
  | .error stop => shell.stopped environment.files [] stop
  | .ok emitted =>
    if call.outputName = [] then shell.print environment emitted
    else shell.save environment call.outputName emitted

/-! ## Building -/

def sourceArgument : String := "SRC_DIR"

def stopOfBuild (error : BuildError) : Stop :=
  match error with
  | .storage error => .broken (.storage error)
  | .emit error => .ofEmit (some sourceArgument) error
  | _ => .misused (.invalid (.refused sourceArgument error.message))

def runBuild (call : Call) : Outcome :=
  let announced := shell.console s!"🔨 Building {String.ofList call.operand}...\n".toList
  match call.emitOptions? with
  | .error error =>
    shell.stopped environment.files announced
      (.misused (.invalid (.refused (some sourceArgument) error.message)))
  | .ok options =>
    let built := build shell.toPlatform options environment.workingDirectory call.operand
      call.outputDirectory environment.files
    match built.error with
    | some error => shell.stopped built.tree announced (stopOfBuild error)
    | none =>
      let place := Path.resolve environment.workingDirectory call.outputDirectory
      let summary := s!"files={built.files}, templates={built.templates}, " ++
        s!"out={String.ofList (Path.render place)}"
      { files := built.tree
        output := announced ++ shell.console s!"✅ Build complete ({summary})\n".toList }

/-! ## Command lines -/

def answer : Request → Outcome
  | .print text => { files := environment.files, output := text }
  | .misuse error => shell.stopped environment.files [] (.misused error)
  | .compile call => shell.runCompile environment call
  | .build call => shell.runBuild environment call

def run (line : List Text) : Outcome :=
  shell.answer environment (shell.read environment line)

end Shell

end TaggedMarkup.CommandLine
