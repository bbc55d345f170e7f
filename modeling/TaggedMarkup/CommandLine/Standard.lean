import TaggedMarkup.CommandLine.Arguments
import TaggedMarkup.CommandLine.Run
import TaggedMarkup.Grammar.Program

/-!
# A standard shell

A shell with the parser and the arguments of this library. Its output is no terminal, so control
sequences are taken out of what is printed.
-/

namespace TaggedMarkup.CommandLine

/-! ## Control sequences -/

def escapeChar : Char := '\x1b'

def isParameter (c : Char) : Bool :=
  c.isDigit || c = ';' || c = '?'

/-- The length of the control sequence at the front of a text: an escape character, a bracket,
parameters and a letter. -/
def sequenceLength? : Text → Option Nat
  | c :: '[' :: rest =>
    if c = escapeChar ∧ (rest.dropWhile isParameter).head?.any Char.isAlpha then
      some ((rest.takeWhile isParameter).length + 3)
    else none
  | _ => none

/-- Drops so many characters, and after them every control sequence. -/
def stripFrom : Nat → Text → Text
  | _, [] => []
  | skipped + 1, _ :: rest => stripFrom skipped rest
  | 0, c :: rest =>
    match sequenceLength? (c :: rest) with
    | some length => stripFrom (length - 1) rest
    | none => c :: stripFrom 0 rest

def stripSequences (text : Text) : Text :=
  stripFrom 0 text

def Shell.standard : Shell where
  toPlatform := .plain Grammar.parse
  read environment line := (Line.ofArguments line).request environment
  echo text := .ok (stripSequences text)
  console := id

end TaggedMarkup.CommandLine
