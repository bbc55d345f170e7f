import TaggedMarkup.ImportStatement
import TaggedMarkup.Platform
import TaggedMarkup.Text.Lines
import TaggedMarkup.Transform

/-!
# Whole programs

From the text of a program to the text that takes its place: `transform` parses it and replaces its
trees, and `emit` adds the import of the tag. `emitBytes` starts from the bytes of a file.
-/

namespace TaggedMarkup

def transform (platform : Platform) (settings : Settings) (file code : Text) :
    Except Failure Transformed :=
  transformTree settings (.ofText code file) (platform.parse code)

structure EmitOptions where
  settings : Settings := {}
  /-- The module the tag is imported from; nothing is imported if it is empty. -/
  moduleName : Text := []
  exported : Text := []

def EmitOptions.importStatement (options : EmitOptions) : ImportStatement :=
  ⟨options.settings.tag, options.moduleName, options.exported⟩

inductive EmitError where
  | failed (failure : Failure)
  | notIdentifier (error : ImportStatement.NotIdentifier)
  | unencodable (error : EncodeError)
  deriving DecidableEq, Repr

def EmitError.message : EmitError → String
  | .failed failure => failure.message
  | .notIdentifier error => error.message
  | .unencodable error => error.message

structure Emitted where
  code : Text
  templates : Nat
  deriving DecidableEq, Repr

def Transformed.emit (options : EmitOptions) (result : Transformed) : Except EmitError Emitted :=
  if result.templates = 0 ∨ options.moduleName = [] then .ok ⟨result.code, result.templates⟩
  else
    match options.importStatement.inject? result.code with
    | .ok code => .ok ⟨code, result.templates⟩
    | .error error => .error (.notIdentifier error)

def emit (platform : Platform) (options : EmitOptions) (file code : Text) :
    Except EmitError Emitted :=
  -- offsets in the tree are those of the bytes, so there have to be some
  match platform.encode code with
  | .error error => .error (.unencodable error)
  | .ok _ =>
    match transform platform options.settings file code with
    | .ok result => result.emit options
    | .error failure => .error (.failed failure)

/-- The text of a file: strict UTF-8, every line end one line feed. -/
def readText (bytes : List UInt8) : Except Utf8.Error Text :=
  (Utf8.decode bytes).map foldLineEnds

def emitBytes (platform : Platform) (options : EmitOptions) (file : Text) (bytes : List UInt8) :
    Except EmitError Emitted :=
  match readText bytes with
  | .ok code => emit platform options file code
  | .error error => .error (.failed (.undecodable error))

end TaggedMarkup
