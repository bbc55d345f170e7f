import TaggedMarkup.Template.Basic
import TaggedMarkup.Template.Escape

/-!
# Buffers

A template is written from left to right as segments, literal texts and holes. A buffer holds the
quasis that are finished, the holes, and the text written since the last hole. That text is escaped
as a whole when a hole or the end of the template finishes it, so a `$` and a brace written in two
pieces are escaped like any other.
-/

namespace TaggedMarkup

inductive Segment where
  | text (text : Text)
  | hole (hole : Hole)

structure Buffer where
  /-- The finished quasis, escaped; there are as many as holes. -/
  quasis : List Text := []
  holes : List Hole := []
  /-- What was written since the last hole, not escaped. -/
  pending : Text := []

namespace Buffer

def empty : Buffer := {}

def text (buffer : Buffer) (text : Text) : Buffer :=
  { buffer with pending := buffer.pending ++ text }

def hole (buffer : Buffer) (hole : Hole) : Buffer where
  quasis := buffer.quasis ++ [escape buffer.pending]
  holes := buffer.holes ++ [hole]
  pending := []

/-- The template written so far, and the buffer without the text that ended it. -/
def build (buffer : Buffer) (tag : Text) : Template × Buffer :=
  (⟨tag, buffer.quasis ++ [escape buffer.pending], buffer.holes⟩, { buffer with pending := [] })

def build? (buffer : Buffer) (tag : Text) : Except Template.Miscount (Template × Buffer) := do
  let (template, rest) := buffer.build tag
  let checked ← Template.make? template.tag template.quasis template.holes
  pure (checked, rest)

def write (buffer : Buffer) : Segment → Buffer
  | .text text => buffer.text text
  | .hole hole => buffer.hole hole

def writeAll (buffer : Buffer) (segments : List Segment) : Buffer :=
  segments.foldl write buffer

@[simp] theorem writeAll_nil (buffer : Buffer) : buffer.writeAll [] = buffer := rfl

theorem writeAll_append (buffer : Buffer) (before after : List Segment) :
    buffer.writeAll (before ++ after) = (buffer.writeAll before).writeAll after := by
  simp [writeAll]

def IsEven (buffer : Buffer) : Prop :=
  buffer.quasis.length = buffer.holes.length

theorem IsEven.write {buffer : Buffer} (h : buffer.IsEven) (segment : Segment) :
    (buffer.write segment).IsEven := by
  cases segment with
  | text text => exact h
  | hole hole => simpa [IsEven, Buffer.write, Buffer.hole] using h

theorem IsEven.writeAll {buffer : Buffer} (h : buffer.IsEven) (segments : List Segment) :
    (buffer.writeAll segments).IsEven := by
  induction segments generalizing buffer with
  | nil => exact h
  | cons segment segments ih => exact ih (h.write segment)

theorem IsEven.build?_eq {buffer : Buffer} (h : buffer.IsEven) (tag : Text) :
    buffer.build? tag = .ok (buffer.build tag) := by
  have hlength : (buffer.quasis ++ [escape buffer.pending]).length = buffer.holes.length + 1 := by
    rw [List.length_append, List.length_singleton, h]
  have hmake : Template.make? tag (buffer.quasis ++ [escape buffer.pending]) buffer.holes =
      .ok (buffer.build tag).1 := if_pos hlength
  change (Template.make? _ _ _ >>= _) = _
  rw [hmake]
  rfl

end Buffer

def Template.ofSegments (tag : Text) (segments : List Segment) : Template :=
  ((Buffer.empty.writeAll segments).build tag).1

end TaggedMarkup
