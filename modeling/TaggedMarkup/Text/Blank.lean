import TaggedMarkup.Text.Basic
import TaggedMarkup.Text.Ranges

/-!
# Blank characters

Two classes of blanks. `isBlank` holds the spaces, line ends and separators that a run of white
space is made of. `isGap` holds what may stand between two tokens of a program: zero width spaces
and the byte order mark count there, the information separators do not.
-/

namespace TaggedMarkup

def blankRanges : List (Nat × Nat) := [
  (0x9, 0xD), (0x1C, 0x20), (0x85, 0x85), (0xA0, 0xA0), (0x1680, 0x1680), (0x2000, 0x200A),
  (0x2028, 0x2029), (0x202F, 0x202F), (0x205F, 0x205F), (0x3000, 0x3000)]

def isBlank (c : Char) : Bool :=
  covers blankRanges c

def gapRanges : List (Nat × Nat) := [
  (0x9, 0xD), (0x20, 0x20), (0x85, 0x85), (0xA0, 0xA0), (0x1680, 0x1680), (0x2000, 0x200B),
  (0x2028, 0x2029), (0x202F, 0x202F), (0x205F, 0x2060), (0x3000, 0x3000), (0xFEFF, 0xFEFF)]

def isGap (c : Char) : Bool :=
  covers gapRanges c

def isLineBreak (c : Char) : Bool :=
  c == '\n' || c == '\r'

/-- A run of characters that goes on to another line. -/
def breaksLine (run : Text) : Bool :=
  run.any isLineBreak

theorem breaksLine_append (first second : Text) :
    breaksLine (first ++ second) = (breaksLine first || breaksLine second) :=
  List.any_append

theorem isBlank_of_isLineBreak {c : Char} (h : isLineBreak c = true) : isBlank c = true := by
  simp only [isLineBreak, Bool.or_eq_true, beq_iff_eq] at h
  rcases h with rfl | rfl <;> decide

end TaggedMarkup
