import TaggedMarkup.Text.Quoted
import TaggedMarkup.Text.Word

/-!
# Import statements

A program that uses templates imports their tag. `ImportStatement.print?` writes the statement, and
`ImportStatement.inject?` puts it at the head of a program, after a `#!` line if there is one.
-/

namespace TaggedMarkup

structure ImportStatement where
  tag : Text
  moduleName : Text
  /-- The exported name; the tag itself if it is empty. -/
  exported : Text := []
  deriving DecidableEq, Repr

namespace ImportStatement

structure NotIdentifier where
  name : Text
  deriving DecidableEq, Repr

def NotIdentifier.message (error : NotIdentifier) : String :=
  s!"Not a valid identifier: {Quoted.quoted error.name}"

def startsIdentifier (c : Char) : Bool :=
  ('a' ≤ c && c ≤ 'z') || ('A' ≤ c && c ≤ 'Z') || c == '_' || c == '$'

/-- Word characters and dollar signs to the end, where one line feed may follow. -/
def continuesIdentifier : Text → Bool
  | [] => true
  | ['\n'] => true
  | c :: rest => (isWord c || c == '$') && continuesIdentifier rest

def isIdentifier : Text → Bool
  | [] => false
  | c :: rest => startsIdentifier c && continuesIdentifier rest

def exportedName (statement : ImportStatement) : Text :=
  if statement.exported.isEmpty then statement.tag else statement.exported

def binding (statement : ImportStatement) : Text :=
  if statement.exportedName = statement.tag then statement.tag
  else statement.exportedName ++ " as ".toList ++ statement.tag

def moduleLiteral (moduleName : Text) : Text :=
  '"' :: moduleName.flatMap (fun c => if c = '\\' ∨ c = '"' then ['\\', c] else [c]) ++ ['"']

def render (statement : ImportStatement) : Text :=
  "import \x7b ".toList ++ statement.binding ++ " \x7d from ".toList ++
    moduleLiteral statement.moduleName ++ [';']

def print? (statement : ImportStatement) : Except NotIdentifier Text :=
  if !isIdentifier statement.tag then .error ⟨statement.tag⟩
  else if !isIdentifier statement.exportedName then .error ⟨statement.exportedName⟩
  else .ok statement.render

/-- Puts a line and an empty one at the head of a program, after its `#!` line. -/
def insertLine (line code : Text) : Text :=
  match code with
  | '#' :: '!' :: _ =>
    code.takeWhile (· ≠ '\n') ++ '\n' :: line ++ '\n' :: '\n' :: (code.dropWhile (· ≠ '\n')).tail
  | _ => line ++ '\n' :: '\n' :: code

def inject? (statement : ImportStatement) (code : Text) : Except NotIdentifier Text :=
  statement.print?.map (insertLine · code)

end ImportStatement

end TaggedMarkup
