import TaggedMarkup.CommandLine.Usage
import TaggedMarkup.Files.Tree
import TaggedMarkup.Text.Utf8

/-!
# Calls

What a command line asks for, once it has been read: a text to be printed, or a call of a command
with an operand and options.
-/

namespace TaggedMarkup

inductive Switch where
  | help
  | version
  | output
  | outDir
  | verbose
  | tag
  | html
  | importModule
  | importExport
  deriving DecidableEq, Repr

namespace Switch

def long : Switch → Text
  | .help => "--help".toList
  | .version => "--version".toList
  | .output => "--output".toList
  | .outDir => "--out-dir".toList
  | .verbose => "--verbose".toList
  | .tag => "--tag".toList
  | .html => "--html".toList
  | .importModule => "--import-module".toList
  | .importExport => "--import-export".toList

def letter? : Switch → Option Char
  | .output => some 'o'
  | .verbose => some 'v'
  | _ => none

def takesValue : Switch → Bool
  | .output | .outDir | .tag | .importModule | .importExport => true
  | _ => false

end Switch

namespace CommandLine

/-- A command's operand, and the options given, each with its value (empty if it takes none). -/
structure Call where
  operand : Text
  given : List (Switch × Text) := []
  deriving DecidableEq, Repr

namespace Call

def value? (call : Call) (switch : Switch) : Option Text :=
  call.given.reverse.lookup switch

def has (call : Call) (switch : Switch) : Bool :=
  (call.value? switch).isSome

/-- The file that the result of `compile` goes to; empty if it goes to standard output. -/
def outputName (call : Call) : Text :=
  (call.value? .output).getD []

def outputDirectory (call : Call) : Text :=
  (call.value? .outDir).getD "dist".toList

end Call

def dash : Text := ['-']

inductive Request where
  | print (text : Text)
  | misuse (error : UsageError)
  | compile (call : Call)
  | build (call : Call)
  deriving DecidableEq, Repr

structure Environment where
  files : FileTree
  workingDirectory : Path := []
  /-- What stands on standard input, if it is text. -/
  input : Except Utf8.Error Text := .ok []

end CommandLine

end TaggedMarkup
