import TaggedMarkup.CommandLine.Standard

/-!
# The program

Reads the files a command line may follow into a file tree, runs it there, and carries out the
changes.
-/

namespace TaggedMarkup.CommandLine

partial def readAll (stream : IO.FS.Stream) (bytes : ByteArray) : IO ByteArray := do
  let more ← stream.read 65536
  if more.isEmpty then pure bytes else readAll stream (bytes ++ more)

def nameOf (path : Path) : String :=
  String.ofList path.render

def entryOnDisk? (path : Path) : IO (Option Entry) := do
  let place := (← IO.currentDir) / nameOf path
  if ← place.isDir then pure (some .directory)
  else if ← place.pathExists then
    let bytes ← IO.FS.readBinFile place
    pure (some (.file bytes.toList))
  else pure none

def loadEntry (tree : FileTree) (path : Path) : IO FileTree := do
  match ← entryOnDisk? path with
  | some entry => pure (if path = [] then tree else tree.insert path entry)
  | none => pure tree

partial def loadBelow (tree : FileTree) (path : Path) : IO FileTree := do
  let place := (← IO.currentDir) / nameOf path
  if ← place.isDir then
    (← place.readDir).toList.foldlM (fun tree entry => do
      let inner := path ++ [entry.fileName.toList]
      loadBelow (← loadEntry tree inner) inner) tree
  else pure tree

/-- The places on the way to a path that is given as text, and those above them. -/
def placesOf (workingDirectory : Path) (text : Text) : List Path :=
  let places := Path.through (Path.start workingDirectory text) (Path.split text)
  (places.flatMap fun place => (List.range (place.length + 1)).map place.take).eraseDups

def load (workingDirectory : Path) (line : Line) : IO FileTree :=
  line.paths.foldlM (fun tree text => do
    let tree ← (placesOf workingDirectory text).foldlM loadEntry tree
    match line with
    | .build _ => loadBelow tree (Path.resolve workingDirectory text)
    | _ => pure tree) {}

def directoriesBeyond (tree other : FileTree) : List Path :=
  let missing := tree.entries.filter fun (path, entry) =>
    entry == .directory && other.get? path != some .directory
  (missing.map (·.1)).mergeSort fun a b => a.length ≤ b.length

def carryOut (before after : FileTree) : IO Unit := do
  for path in before.removed after do
    IO.FS.removeFile (nameOf path)
  for path in (directoriesBeyond before after).reverse do
    IO.FS.removeDir (nameOf path)
  for path in directoriesBeyond after before do
    IO.FS.createDirAll (nameOf path)
  for (path, bytes) in before.written after do
    IO.FS.writeBinFile (nameOf path) ⟨bytes.toArray⟩

def execute (arguments : List Text) : IO UInt32 := do
  let workingDirectory := Path.resolve [] (← IO.currentDir).toString.toList
  let line := Line.ofArguments arguments
  let files ← load workingDirectory line
  let input ← if line.readsInput then readAll (← IO.getStdin) .empty else pure .empty
  let onTerminal ← (← IO.getStdout).isTty
  let shell := if onTerminal then { Shell.standard with echo := .ok } else Shell.standard
  let outcome := shell.run ⟨files, workingDirectory, Utf8.decode input.toList⟩ arguments
  carryOut files outcome.files
  IO.print (String.ofList outcome.output)
  IO.eprint (String.ofList outcome.errors)
  match outcome.stop with
  | some (.misused error) => IO.eprintln s!"Error: {error.message}"
  | some (.broken breakdown) => IO.eprintln s!"Error: {breakdown.message}"
  | _ => pure ()
  pure (.ofNat outcome.exitCode)

end TaggedMarkup.CommandLine

def main (arguments : List String) : IO UInt32 :=
  TaggedMarkup.CommandLine.execute (arguments.map String.toList)
