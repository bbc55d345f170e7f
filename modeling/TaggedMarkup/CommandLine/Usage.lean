import TaggedMarkup.Text.Quoted

/-!
# Usage errors

What can be wrong with the arguments of a command.
-/

namespace TaggedMarkup

inductive InvalidArgument where
  | isDirectory (argument : String) (path : Text)
  | isFile (argument : String) (path : Text)
  | missingFile (argument : String) (path : Text)
  /-- What the arguments ask for cannot be done; the reason may be put down to one of them. -/
  | refused (argument : Option String) (reason : String)
  deriving DecidableEq, Repr

def InvalidArgument.message : InvalidArgument → String
  | .isDirectory argument path =>
    s!"Invalid value for '{argument}': File {Quoted.quoted path} is a directory."
  | .isFile argument path =>
    s!"Invalid value for '{argument}': Directory {Quoted.quoted path} is a file."
  | .missingFile argument path =>
    s!"Invalid value for {argument}: File '{String.ofList path}' does not exist"
  | .refused (some argument) reason => s!"Invalid value for {argument}: {reason}"
  | .refused none reason => s!"Invalid value: {reason}"

inductive UsageError where
  | noArguments
  | missingCommand
  | noSuchCommand (name : Text)
  | noSuchOption (name : Text)
  | missingValue (option : Text)
  | unexpectedValue (option : Text)
  | missingArgument (argument : String)
  | extraArguments (arguments : List Text)
  | invalid (error : InvalidArgument)
  deriving DecidableEq, Repr

def usageLine : String :=
  "Usage: jsx2htm [OPTIONS] COMMAND [ARGS]...\n"

private def extraArgumentsMessage (arguments : List Text) : String :=
  let noun := if arguments.length = 1 then "argument" else "arguments"
  let listed := String.ofList (joinWith [' '] arguments)
  s!"Got unexpected extra {noun} ({listed})"

def UsageError.message : UsageError → String
  | .noArguments => usageLine
  | .missingCommand => "Missing command."
  | .noSuchCommand name => s!"No such command {Quoted.quoted name}."
  | .noSuchOption name => s!"No such option {Quoted.quoted name}."
  | .missingValue option => s!"Option {Quoted.quoted option} requires an argument."
  | .unexpectedValue option => s!"Option {Quoted.quoted option} does not take a value."
  | .missingArgument argument => s!"Missing argument '{argument}'."
  | .extraArguments arguments => extraArgumentsMessage arguments
  | .invalid error => error.message

end TaggedMarkup
