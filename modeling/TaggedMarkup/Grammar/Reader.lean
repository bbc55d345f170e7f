import TaggedMarkup.Grammar.Lexeme
import TaggedMarkup.Source.Node

/-!
# Readers

A reader takes part of a program off its front and puts nodes for what it took at the end of the
nodes read so far, or fails and changes nothing. Blanks and comments are taken together with the
token after them, so a node never ends in one.
-/

namespace TaggedMarkup.Grammar

/-! ## Input -/

structure Context where
  /-- A line break may end the expression. -/
  atLineEnd : Bool := true
  beforeColon : Bool := false
  beforeIn : Bool := false

def Context.bracketed : Context := { atLineEnd := false }

/-- The rest of a program, how many characters it has, the offset it begins at, and the nodes read
so far at this depth, the last one first. -/
structure Input where
  rest : Text
  remaining : Nat
  offset : Nat := 0
  nodes : List Node := []
  context : Context := {}

namespace Input

def ofText (text : Text) : Input :=
  { rest := text, remaining := text.length }

def byteLength (text : Text) : Nat :=
  text.foldl (fun bytes c => bytes + c.utf8Size) 0

def advance (input : Input) (count : Nat) : Input :=
  { input with
    rest := input.rest.drop count
    remaining := input.remaining - count
    offset := input.offset + byteLength (input.rest.take count) }

def advanceLeaf (input : Input) (kind : Kind) (named : Bool) (count : Nat) : Input :=
  let passed := input.advance count
  { passed with
    nodes := { kind, start := input.offset, stop := passed.offset, named } :: input.nodes }

def skipTrivia (markup : Bool) : Nat → Input → Input
  | 0, input => input
  | fuel + 1, input =>
    match (input.rest.takeWhile isGap).length with
    | 0 =>
      match commentLength input.rest with
      | some count => skipTrivia markup fuel (input.advanceLeaf .comment true count)
      | none =>
        match if markup then markupCommentLength input.rest else none with
        | some count =>
          skipTrivia markup fuel (input.advanceLeaf (.other "html_comment") true count)
        | none => input
    | count => skipTrivia markup fuel (input.advance count)

def trimmed (input : Input) (markup : Bool) : Input :=
  skipTrivia markup input.remaining input

end Input

/-! ## Automatic semicolons -/

def semicolonBlanks : List (Nat × Nat) := [
  (0x9, 0xD), (0x20, 0x20), (0x1680, 0x1680), (0x2000, 0x2006), (0x2008, 0x200A),
  (0x2028, 0x2029), (0x205F, 0x205F), (0x3000, 0x3000)]

private def isSemicolonBlank (c : Char) : Bool :=
  covers semicolonBlanks c

def pastBlanks : Nat → Text → Text
  | 0, text => text
  | fuel + 1, text =>
    match text.dropWhile isSemicolonBlank with
    | '/' :: rest =>
      match commentLength ('/' :: rest) with
      | some count => pastBlanks fuel (('/' :: rest).drop count)
      | none => '/' :: rest
    | rest => rest

private def isLetter (c : Char) : Bool :=
  isNamePart c && !isDigit c && c != '_' && c != '$'

private def continuesRelation (text : Text) : Bool :=
  match afterStart? "stanceof".toList text with
  | some rest => !rest.head?.any isLetter
  | none => !text.head?.any isLetter

/-- A statement that was broken off at a line end may be complete: the next line does not go on with
it. Only an expression can go on with a bracket. -/
def startsStatement (afterExpression : Bool) : Text → Bool
  | '+' :: rest => rest.head? == some '+'
  | '-' :: rest => rest.head? == some '-'
  | '!' :: rest => rest.head? != some '='
  | 'i' :: 'n' :: rest => !continuesRelation rest
  | '(' :: _ => !afterExpression
  | '[' :: _ => !afterExpression
  | c :: _ => !"\x60,.;*%><=?^|&/:".toList.contains c
  | [] => true

/-- A semicolon may be left out here: the program or the block ends, or the line does and the next
one begins a statement. -/
def endsStatement (afterExpression : Bool) : Nat → Text → Bool
  | 0, text => text.isEmpty
  | fuel + 1, text =>
    match text.dropWhile fun c => c != '\n' && isSemicolonBlank c with
    | [] => true
    | '\x7d' :: _ => true
    -- a line feed decides, whatever comes after it
    | '\n' :: rest => startsStatement afterExpression (pastBlanks (fuel + 1) rest)
    | _ =>
      let rest := text.dropWhile isGap
      match commentLength rest with
      | some count => endsStatement afterExpression fuel (rest.drop count)
      | none => false

/-! ## Readers -/

abbrev Reader := StateT Input Option

namespace Reader

def trivia : Reader Unit :=
  modify (·.trimmed false)

/-- Takes off blanks and comments where an operand or a statement may begin, which may also be
comments of markup. -/
def operandTrivia : Reader Unit :=
  modify (·.trimmed true)

def ahead : Reader Text := do
  return (← get).trimmed false |>.rest

def isNext (start : String) : Reader Bool := do
  return (afterStart? start.toList (← ahead)).isSome

def wordOf (text : Text) : String :=
  match nameLength text with
  | some count => String.ofList (text.take count)
  | none => ""

def nextWord : Reader String := do
  return wordOf (← ahead)

def aheadOfWord : Reader Text := do
  let input := (← get).trimmed false
  match nameLength input.rest with
  | some count => return (input.advance count).trimmed false |>.rest
  | none => return input.rest

def wouldRead (reader : Reader Unit) : Reader Bool :=
  fun input => some ((reader input).isSome, input)

def ensure (condition : Bool) : Reader Unit :=
  if condition then pure () else failure

def lexeme (kind : Kind) (length? : Text → Option Nat) : Reader Unit := do
  trivia
  let input ← get
  match length? input.rest with
  | some count => set (input.advanceLeaf kind true count)
  | none => failure

def exactly (text : String) : Reader Unit := do
  let input ← get
  match afterStart? text.toList input.rest with
  | some _ => set (input.advanceLeaf (.ofName text) false text.length)
  | none => failure

def token (text : String) : Reader Unit := do
  trivia
  exactly text

def word (text : String) : Reader Unit := do
  -- compared as a whole, so that no longer name begins with it
  ensure ((← nextWord) == text)
  token text

def name : Reader Unit :=
  lexeme (.other "identifier") nameLength

def optionally (reader : Reader Unit) : Reader Unit :=
  reader <|> pure ()

def repeated : Nat → Reader Unit → Reader Unit
  | 0, _ => pure ()
  | fuel + 1, reader => optionally (do reader; repeated fuel reader)

def many (reader : Reader Unit) : Reader Unit := do
  repeated ((← get).remaining + 1) reader

def separated (reader : Reader Unit) : Reader Unit := do
  reader
  many (do token ","; reader)

/-- Any number, with commas between and after them; places may be empty. -/
def listed (reader : Reader Unit) : Reader Unit := do
  optionally reader
  many (do token ","; optionally reader)

def within {α : Type} (context : Context) (reader : Reader α) : Reader α := do
  let outer := (← get).context
  modify ({ · with context })
  let result ← reader
  modify ({ · with context := outer })
  return result

def bracketed {α : Type} (reader : Reader α) : Reader α :=
  within .bracketed reader

/-! ### Nodes -/

/-- The nodes that a reader adds, and where they begin; they are not added. -/
def captured {α : Type} (reader : Reader α) : Reader (α × Nat × List Node) := do
  let outer := (← get).nodes
  let start := (← get).offset
  modify ({ · with nodes := [] })
  let result ← reader
  let inner := (← get).nodes
  modify ({ · with nodes := outer })
  return (result, start, inner.reverse)

def emit (kind : Kind) (start : Nat) (children : List Node) : Reader Unit :=
  modify fun input =>
    { input with nodes := { kind, start, stop := input.offset, children } :: input.nodes }

def nodeHere (kind : Kind) (reader : Reader Unit) : Reader Unit := do
  let (_, start, children) ← captured reader
  emit kind start children

def node (kind : Kind) (reader : Reader Unit) : Reader Unit := do
  trivia
  nodeHere kind reader

def phrase (reader : Reader Unit) : Reader Unit := do
  operandTrivia
  let (_, start, children) ← captured reader
  match children with
  | [only] => modify fun input => { input with nodes := only :: input.nodes }
  | _ => emit (.other "expression") start children

def mark (field : Field) : Reader Unit :=
  modify fun input =>
    { input with
      nodes := match input.nodes with
        | last :: others => { last with field := some field } :: others
        | [] => [] }

/-! ### Ends of statements -/

def atStatementEnd (afterExpression : Bool) : Reader Bool := do
  let input ← get
  return endsStatement afterExpression (input.remaining + 1) input.rest

def brokenOff : Reader Bool := do
  let input ← get
  return input.context.atLineEnd && endsStatement true (input.remaining + 1) input.rest

def semicolon : Reader Unit := do
  if ← atStatementEnd true then pure () else token ";"

def closingSemicolon : Reader Unit := do
  if ← atStatementEnd false then pure () else token ";"

end Reader

/-- The readers of nested constructs, which every other reader is built from. -/
structure Rules where
  expression : Reader Unit
  statement : Reader Unit
  typeTerm : Reader Unit
  element : Reader Unit
  pattern : Reader Unit

end TaggedMarkup.Grammar
