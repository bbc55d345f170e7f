import TaggedMarkup.Files.Tree
import TaggedMarkup.Program

/-!
# Builds

A build transforms every source file below a directory and writes the results below another, which
it empties first. Sources are visited in the order of their paths, and the first failure ends the
build; what was written by then stays.
-/

namespace TaggedMarkup

/-! ## Sources -/

def sourceSuffixes : List (Text × Text) :=
  [("jsx".toList, "js".toList), ("tsx".toList, "ts".toList), ("js".toList, "js".toList),
    ("mjs".toList, "mjs".toList)]

/-- The name of what a source becomes. Its suffix stands after the last dot, and the name before
that dot is not empty. -/
def targetName? (name : Text) : Option Text :=
  let stem := stripEnd (· != '.') name
  if stem.length < 2 then none
  else (sourceSuffixes.lookup (runAtEnd (· != '.') name)).map (stem ++ ·)

def targetPath? (path : Path) : Option Path :=
  match path.getLast? with
  | some name => (targetName? name).map fun target => path.dropLast ++ [target]
  | none => none

def isPassedOver (name : Text) : Bool :=
  name.head? = some '.' || name = "node_modules".toList

/-- A source file: its path below the source directory, the path of what it becomes below the output
directory, and its bytes. -/
structure SourceFile where
  path : Path
  target : Path
  bytes : List UInt8
  deriving DecidableEq, Repr

def SourceFile.ofFile? (file : Path × List UInt8) : Option SourceFile :=
  if file.1.any isPassedOver then none
  else (targetPath? file.1).map fun target => ⟨file.1, target, file.2⟩

def FileTree.sources (tree : FileTree) (path : Path) : List SourceFile :=
  ((tree.filesUnder path).filterMap SourceFile.ofFile?).mergeSort fun a b => a.path.le b.path

/-! ## Building -/

inductive BuildError where
  | noSource (path : Text)
  /-- The output directory is the source directory, or in it. -/
  | nestedOutput
  | storage (error : FileTree.Error)
  | unencodable (error : EncodeError)
  | emit (error : EmitError)
  deriving DecidableEq, Repr

def BuildError.ofWrite : WriteError → BuildError
  | .storage error => .storage error
  | .unencodable error => .unencodable error

def BuildError.message : BuildError → String
  | .noSource path => s!"Source directory not found: {String.ofList path}"
  | .nestedOutput => "Output directory must not be inside the source directory"
  | .storage error => error.message
  | .unencodable error => error.message
  | .emit error => error.message

structure Built where
  tree : FileTree
  files : Nat := 0
  templates : Nat := 0
  error : Option BuildError := none

section Building

variable (platform : Platform) (options : EmitOptions)

/-- Transforms one source and writes the result. Diagnostics name it by its path below the source
directory. -/
def buildFile (output : Path) (file : SourceFile) (built : Built) : Built :=
  match emitBytes platform options (Path.join file.path) file.bytes with
  | .error error => { built with error := some (.emit error) }
  | .ok emitted =>
    let stored := platform.deposit built.tree (output ++ file.target) emitted.code
    match stored.error with
    | some error => { built with tree := stored.tree, error := some (.ofWrite error) }
    | none =>
      { built with
        tree := stored.tree
        files := built.files + 1
        templates := built.templates + emitted.templates }

def buildFiles (output : Path) : List SourceFile → Built → Built
  | [], built => built
  | file :: files, built =>
    let next := buildFile platform options output file built
    match next.error with
    | some _ => next
    | none => buildFiles output files next

def buildBetween (source output : Path) (tree : FileTree) : Built :=
  if source.isPrefixOf output then { tree, error := some .nestedOutput }
  else
    match tree.renewDirectory output with
    | .error error => { tree, error := some (.storage error) }
    -- the sources are looked for once the output directory is empty
    | .ok renewed => buildFiles platform options output (renewed.sources source) { tree := renewed }

def build (workingDirectory : Path) (source output : Text) (tree : FileTree) : Built :=
  if tree.find? workingDirectory (Path.tidy source) = some .directory then
    buildBetween platform options (Path.resolve workingDirectory source)
      (Path.resolve workingDirectory output) tree
  else { tree, error := some (.noSource (Path.tidy source)) }

end Building

end TaggedMarkup
