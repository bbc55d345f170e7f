import TaggedMarkup.Files.Tree
import TaggedMarkup.Source.Node
import TaggedMarkup.Text.Utf8

/-!
# Platforms

What programs are parsed with, and how texts become files. A text may hold characters that stand for
bytes which could not be decoded, as they come in with arguments. Such a text cannot be encoded, and
when it is to be written, its file has been emptied before that shows.
-/

namespace TaggedMarkup

structure Platform where
  parse : Text → SyntaxTree
  /-- The byte that a character stands for which could not be decoded. -/
  undecoded? : Char → Option UInt8

namespace Platform

/-- A platform on which every character of a text is one. -/
def plain (parse : Text → SyntaxTree) : Platform :=
  ⟨parse, fun _ => none⟩

end Platform

/-- Characters from `start` up to `stop` cannot be encoded; the first stands for `byte`. -/
structure EncodeError where
  start : Nat
  stop : Nat
  byte : UInt8
  deriving DecidableEq, Repr

def EncodeError.message (error : EncodeError) : String :=
  if error.stop = error.start + 1 then
    let digits := String.ofList (Nat.toDigits 16 error.byte.toNat)
    s!"'utf-8' codec can't encode character '\\udc{digits}' in position {error.start}: " ++
      "surrogates not allowed"
  else
    s!"'utf-8' codec can't encode characters in position {error.start}-{error.stop - 1}: " ++
      "surrogates not allowed"

inductive WriteError where
  | storage (error : FileTree.Error)
  | unencodable (error : EncodeError)
  deriving DecidableEq, Repr

structure Stored where
  tree : FileTree
  error : Option WriteError := none

namespace Platform

variable (platform : Platform)

def encode (text : Text) : Except EncodeError (List UInt8) :=
  let isKnown := fun c => (platform.undecoded? c).isNone
  match text.dropWhile isKnown with
  | [] => .ok (Utf8.encode text)
  | c :: rest =>
    let start := (text.takeWhile isKnown).length
    -- all characters of the first run are reported, with the byte of the first
    let others := rest.takeWhile fun c => !isKnown c
    .error ⟨start, start + 1 + others.length, (platform.undecoded? c).getD 0⟩

def writeText (tree : FileTree) (path : Path) (text : Text) : Stored :=
  match tree.writeFile path [] with
  | .error error => ⟨tree, some (.storage error)⟩
  | .ok emptied =>
    -- the file is open, and so emptied, before the text is encoded
    match platform.encode text with
    | .error error => ⟨emptied, some (.unencodable error)⟩
    | .ok bytes => ⟨emptied.insert path (.file bytes), none⟩

def deposit (tree : FileTree) (path : Path) (text : Text) : Stored :=
  match tree.makeDirectories path.dropLast with
  | .error error => ⟨tree, some (.storage error)⟩
  | .ok prepared => platform.writeText prepared path text

end Platform

end TaggedMarkup
