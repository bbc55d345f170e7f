import TaggedMarkup.Text.Basic

/-!
# Diagnostics

What can be wrong with a program, and where. A `Problem` is the cause; a `Diagnostic` adds the file
and the place. `Diagnostic.render` writes it as one line, `file:line:column: message`.
-/

namespace TaggedMarkup

/-- A place in a text; lines and columns are counted from one, columns in bytes. -/
structure Position where
  line : Int := 0
  column : Int := 0
  deriving DecidableEq, Repr, Inhabited

inductive Category where
  | general
  | unsupported
  | unreadable
  deriving DecidableEq, Repr

inductive Problem where
  | unreadable
  | spreadChild
  | emptyAttribute (name : Text)
  | namespacedTag (name : Text)
  | unnamedElement
  | spreadValue (name : Text)
  | attributeValue (name : Text) (kind : String)
  | expectedSpread
  | stated (category : Category) (message : Text)
  deriving DecidableEq, Repr

namespace Problem

def category : Problem → Category
  | .unreadable => .unreadable
  | .stated category _ => category
  | _ => .unsupported

def message : Problem → String
  | .unreadable => "Could not parse source"
  | .spreadChild => "Spread children are not supported"
  | .emptyAttribute name =>
    s!"Attribute '{String.ofList name}' must be assigned a non-empty expression"
  | .namespacedTag name =>
    s!"Namespaced tag <{String.ofList name}> cannot be represented in a template"
  | .unnamedElement => "Element has no tag name"
  | .spreadValue name => s!"Attribute '{String.ofList name}' cannot take a spread value"
  | .attributeValue name kind =>
    s!"Unsupported value for attribute '{String.ofList name}': {kind}"
  | .expectedSpread => "Expected a spread attribute (\x7b...props\x7d)"
  | .stated _ message => String.ofList message

end Problem

/-- A problem, the file it is in (empty if unknown), and its place there as far as it is known. -/
structure Diagnostic where
  problem : Problem
  file : Text := []
  line : Option Int := none
  column : Option Int := none
  deriving DecidableEq, Repr

namespace Diagnostic

def located (problem : Problem) (file : Text) (position : Position) : Diagnostic :=
  ⟨problem, file, some position.line, some position.column⟩

def withFile (diagnostic : Diagnostic) (file : Text) : Diagnostic :=
  { diagnostic with file }

def inFile (diagnostic : Diagnostic) (file : Text) : Diagnostic :=
  if diagnostic.file.isEmpty then diagnostic.withFile file else diagnostic

/-- How a file is called in messages; text that comes from no file is called `<source>`. -/
def fileLabel (file : Text) : String :=
  if file.isEmpty then "<source>" else String.ofList file

def place (diagnostic : Diagnostic) : String :=
  match diagnostic.line, diagnostic.column with
  | none, _ => fileLabel diagnostic.file
  | some line, none => s!"{fileLabel diagnostic.file}:{line}"
  | some line, some column => s!"{fileLabel diagnostic.file}:{line}:{column}"

def render (diagnostic : Diagnostic) : String :=
  s!"{diagnostic.place}: {diagnostic.problem.message}"

end Diagnostic

end TaggedMarkup
