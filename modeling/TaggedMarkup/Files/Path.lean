import TaggedMarkup.Text.Lines

/-!
# Paths

A `Path` is a place in a file tree: the names that lead from the root to it. As text, names are
divided by slashes, and a path is read from the root if it begins with a slash, and otherwise from
a working directory.
-/

namespace TaggedMarkup

/-- A place in a file tree, as the names from the root down. -/
abbrev Path := List Text

namespace Path

def split : Text → List Text
  | [] => [[]]
  | '/' :: rest => [] :: split rest
  | c :: rest => pushFirst c (split rest)

def le : Path → Path → Bool
  | [], _ => true
  | _ :: _, [] => false
  | name :: first, other :: second =>
    if name = other then le first second else textLe name other

def join (names : List Text) : Text :=
  joinWith ['/'] names

def render (path : Path) : Text :=
  '/' :: join path

def isIdle (name : Text) : Bool :=
  name = [] || name = ['.']

/-- Where one name leads: `..` up, the idle names nowhere, any other name down. -/
def step (path : Path) (name : Text) : Path :=
  if isIdle name then path
  else if name = ['.', '.'] then path.dropLast
  else path ++ [name]

def start (workingDirectory : Path) (text : Text) : Path :=
  if text.head? = some '/' then [] else workingDirectory

def resolve (workingDirectory : Path) (text : Text) : Path :=
  (split text).foldl step (start workingDirectory text)

def through (path : Path) : List Text → List Path
  | [] => [path]
  | name :: names => path :: through (path.step name) names

/-- The slashes a tidy path begins with: two stay two, more are one. -/
def leadingSlashes : Text → Text
  | '/' :: '/' :: '/' :: _ => ['/']
  | '/' :: '/' :: _ => ['/', '/']
  | '/' :: _ => ['/']
  | _ => []

def tidy (text : Text) : Text :=
  match leadingSlashes text ++ join ((split text).filter (!isIdle ·)) with
  | [] => ['.']
  | tidied => tidied

theorem split_ne_nil (text : Text) : split text ≠ [] := by
  fun_induction split text <;> simp_all [pushFirst]
  split <;> simp

end Path

end TaggedMarkup
