import TaggedMarkup.CommandLine.Call

/-!
# Arguments

A way to read command lines. `Arguments.scan` tells options and operands apart: an option begins
with a dash, its value is attached to it or follows it, and after `--` all are operands.
`Line.ofArguments` finds the command, and `Line.request` checks its operands.
-/

namespace TaggedMarkup

structure Arguments where
  given : List (Switch × Text) := []
  operands : List Text := []
  deriving DecidableEq, Repr

namespace Arguments

def has (arguments : Arguments) (switch : Switch) : Bool :=
  arguments.given.any (·.1 = switch)

def isOption : Text → Bool
  | '-' :: _ :: _ => true
  | _ => false

/-- The options that one argument gives. The last may want the next argument as its value; it is
then named as it is written. -/
structure Reading where
  given : List (Switch × Text) := []
  wanting : Option (Switch × Text) := none

def readLong (switches : List Switch) (argument : Text) : Except UsageError Reading :=
  let name := argument.takeWhile (· != '=')
  match switches.find? (·.long = name), argument.dropWhile (· != '=') with
  | none, _ => .error (.noSuchOption name)
  | some switch, [] =>
    if switch.takesValue then .ok { wanting := some (switch, name) }
    else .ok { given := [(switch, [])] }
  | some switch, _ :: value =>
    if switch.takesValue then .ok { given := [(switch, value)] } else .error (.unexpectedValue name)

/-- Reads letters after one dash. What follows the letter of an option that takes a value is the
value. -/
def readLetters (switches : List Switch) : Text → Except UsageError Reading
  | [] => .ok {}
  | c :: rest =>
    match switches.find? (·.letter? = some c) with
    | none => .error (.noSuchOption ['-', c])
    | some switch =>
      if switch.takesValue then
        if rest = [] then .ok { wanting := some (switch, ['-', c]) }
        else .ok { given := [(switch, rest)] }
      else
        (readLetters switches rest).map fun reading =>
          { reading with given := (switch, []) :: reading.given }

def readOptions (switches : List Switch) (argument : Text) : Except UsageError Reading :=
  match argument with
  | '-' :: '-' :: _ => readLong switches argument
  | _ => readLetters switches argument.tail

def give (arguments : Arguments) (given : List (Switch × Text)) : Arguments :=
  { arguments with given := given ++ arguments.given }

/-- Tells options from operands. Unless `mixed`, the first operand ends the options. -/
def scan (switches : List Switch) (mixed : Bool) : List Text → Except UsageError Arguments
  | [] => .ok {}
  | argument :: rest =>
    if argument = ['-', '-'] then .ok { operands := rest }
    else if isOption argument then
      match readOptions switches argument with
      | .error error => .error error
      | .ok ⟨given, none⟩ => (scan switches mixed rest).map (·.give given)
      | .ok ⟨given, some (switch, name)⟩ =>
        match rest with
        | [] => .error (.missingValue name)
        | value :: rest => (scan switches mixed rest).map (·.give (given ++ [(switch, value)]))
    else if mixed then
      (scan switches mixed rest).map fun arguments =>
        { arguments with operands := argument :: arguments.operands }
    else .ok { operands := argument :: rest }

end Arguments

namespace CommandLine

def sharedSwitches : List Switch :=
  [.help, .verbose, .tag, .html, .importModule, .importExport]

def compileSwitches : List Switch :=
  .output :: sharedSwitches

def buildSwitches : List Switch :=
  .outDir :: sharedSwitches

inductive Line where
  | print (text : Text)
  | misuse (error : UsageError)
  | compile (arguments : Arguments)
  | build (arguments : Arguments)
  deriving DecidableEq, Repr

def readCommand (switches : List Switch) (command : Arguments → Line) (arguments : List Text) :
    Line :=
  match Arguments.scan switches true arguments with
  | .error error => .misuse error
  | .ok scanned => if scanned.has .help then .print usageLine.toList else command scanned

def generalText? (scanned : Arguments) : Option Text :=
  match scanned.given.head? with
  | some (.version, _) => some "jsx2htm, version 0.3.0\n".toList
  | some _ => some usageLine.toList
  | none => none

def readGeneral (arguments : List Text) (otherwise : List Text → Line) : Line :=
  match Arguments.scan [.version, .help] false arguments with
  | .error error => .misuse error
  | .ok scanned =>
    match generalText? scanned with
    | some text => .print text
    | none => otherwise scanned.operands

/-- What a name and the arguments after it ask for. A name that is no command is read as general
options if it looks like them. -/
def readOperands : List Text → Line
  | [] => .misuse .missingCommand
  | name :: arguments =>
    if name = "compile".toList then readCommand compileSwitches .compile arguments
    else if name = "build".toList then readCommand buildSwitches .build arguments
    else readGeneral (name :: arguments) fun _ => .misuse (.noSuchCommand name)

namespace Line

def ofArguments (arguments : List Text) : Line :=
  if arguments = [] then .misuse .noArguments else readGeneral arguments readOperands

def callOf (command : Call → Request) (argument : String) (arguments : Arguments)
    (invalid? : Text → Option InvalidArgument) : Request :=
  match arguments.operands with
  | [] => .misuse (.missingArgument argument)
  | operand :: extra =>
    match invalid? operand with
    | some error => .misuse (.invalid error)
    | none =>
      if extra ≠ [] then .misuse (.extraArguments extra) else command ⟨operand, arguments.given⟩

def request (environment : Environment) : Line → Request
  | .print text => .print text
  | .misuse error => .misuse error
  | .compile arguments => callOf .compile "SOURCE" arguments fun operand =>
    if operand = dash then none
    else
      match environment.files.find? environment.workingDirectory operand with
      | some .directory => some (.isDirectory "SOURCE" operand)
      | _ => none
  | .build arguments => callOf .build "SRC_DIR" arguments fun operand =>
    match environment.files.find? environment.workingDirectory operand with
    | some (.file _) => some (.isFile "SRC_DIR" operand)
    | _ => none

def paths : Line → List Text
  | .compile arguments =>
    arguments.operands.filter (· ≠ dash) ++ [Call.outputName ⟨[], arguments.given⟩]
  | .build arguments => Call.outputDirectory ⟨[], arguments.given⟩ :: arguments.operands
  | _ => []

def readsInput : Line → Bool
  | .compile arguments => arguments.operands = [dash]
  | _ => false

end Line

end CommandLine

end TaggedMarkup
