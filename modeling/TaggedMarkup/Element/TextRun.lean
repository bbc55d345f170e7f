import TaggedMarkup.Text.Lines

/-!
# Runs of text

Text between tags is often broken over lines to fit the page. `collapse` undoes this: the lines are
joined by one space each, without the indentation around the line ends, and lines of nothing else
are dropped. Text on one line is kept as it is.
-/

namespace TaggedMarkup

def isSpace (c : Char) : Bool :=
  c == ' '

def trimLines : List Text → List Text
  | [] => []
  -- the last line keeps the spaces at its end
  | [last] => [last.dropWhile isSpace]
  | line :: lines => stripEnd isSpace (line.dropWhile isSpace) :: trimLines lines

def tabsToSpaces (line : Text) : Text :=
  line.map fun c => if c = '\t' then ' ' else c

def collapse (raw : Text) : Text :=
  match splitLines raw with
  | first :: second :: lines =>
    let trimmed := stripEnd isSpace (tabsToSpaces first) ::
      trimLines ((second :: lines).map tabsToSpaces)
    joinWith [' '] (trimmed.filter (!·.isEmpty))
  | _ => raw

end TaggedMarkup
