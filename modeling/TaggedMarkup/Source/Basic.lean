import TaggedMarkup.Failure

/-!
# Sources

The bytes of a program and the file they come from. Nodes are cut out of it by byte offsets, and
their places are counted in it.
-/

namespace TaggedMarkup

structure Source where
  bytes : List UInt8
  file : Text := []

namespace Source

def ofText (text : Text) (file : Text) : Source :=
  ⟨Utf8.encode text, file⟩

def slice (source : Source) (start stop : Nat) : Except Failure Text :=
  match Utf8.decode ((source.bytes.take stop).drop start) with
  | .ok text => .ok text
  | .error error => .error (.undecodable error)

/-- The line and column of an offset; a line ends in a line feed. -/
def position (source : Source) (offset : Nat) : Position :=
  let before := source.bytes.take offset
  { line := before.count 10 + 1
    column := (before.reverse.takeWhile (· != 10)).length + 1 }

def report (source : Source) (problem : Problem) (offset : Nat) : Failure :=
  .reported (.located problem source.file (source.position offset))

end Source

end TaggedMarkup
