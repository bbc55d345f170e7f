import TaggedMarkup.Text.Blank

/-!
# Unwrapped code

Code around a tree is often broken over lines only to put the tree on lines of its own. Where white
space next to the tree goes over a line break, it becomes one space, or nothing next to a bracket.
-/

namespace TaggedMarkup

/-- Nothing is left between such a character and a tree after it. -/
def isOpener (c : Char) : Bool :=
  c == '(' || c == '[' || c == '\x7b'

/-- Nothing is left between a tree and such a character after it. -/
def isCloser (c : Char) : Bool :=
  c == ')' || c == ']' || c == '\x7d' || c == ',' || c == ';'

def unwrapBefore (text : Text) : Text :=
  let kept := stripEnd isBlank text
  if !breaksLine (runAtEnd isBlank text) then text
  -- at the very start of the code, too, nothing is left
  else if kept.getLast?.all isOpener then kept
  else kept ++ [' ']

def unwrapAfter (text : Text) : Text :=
  let kept := text.dropWhile isBlank
  if !breaksLine (text.takeWhile isBlank) then text
  else if kept.head?.all isCloser then kept
  else ' ' :: kept

end TaggedMarkup
