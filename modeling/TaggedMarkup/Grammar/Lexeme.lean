import TaggedMarkup.Text.Blank

/-!
# Lexemes

The smallest pieces of a program: names, numbers, strings, regular expressions, comments, and the
texts of templates and of markup. Each function here looks at a text from its first character on and
says how many characters the piece takes, or that there is none.
-/

namespace TaggedMarkup.Grammar

/-! ## Characters -/

def isDigit (c : Char) : Bool :=
  '0' ≤ c && c ≤ '9'

def isAsciiLetter (c : Char) : Bool :=
  ('a' ≤ c && c ≤ 'z') || ('A' ≤ c && c ≤ 'Z')

def isHexDigit (c : Char) : Bool :=
  isDigit c || ('a' ≤ c && c ≤ 'f') || ('A' ≤ c && c ≤ 'F')

def isPunctuation (c : Char) : Bool :=
  ":;\x60\"'@#.,|^&<=>+-*/\\%?!~()[]\x7b\x7d".toList.contains c

/-- A character that may continue a name: any that is not punctuation, blank or control. -/
def isNamePart (c : Char) : Bool :=
  !(c.toNat < 0x20 || isGap c || isPunctuation c)

def isNameStart (c : Char) : Bool :=
  isNamePart c && !isDigit c

def isPlainPart (c : Char) : Bool :=
  isAsciiLetter c || isDigit c || c == '_' || c == '$'

/-! ## Names and numbers -/

/-- The rest of a name; `\u` and four digits stand for a character. -/
def nameTail : Text → Nat
  | '\\' :: 'u' :: a :: b :: c :: d :: rest =>
    if [a, b, c, d].all isHexDigit then 6 + nameTail rest else 0
  | c :: rest => if isNamePart c then 1 + nameTail rest else 0
  | [] => 0

def nameLength : Text → Option Nat
  | '\\' :: rest => match nameTail ('\\' :: rest) with
    | 0 => none
    | n => some n
  | c :: rest => if isNameStart c then some (1 + nameTail rest) else none
  | [] => none

def hyphenatedLength (text : Text) : Option Nat :=
  match text with
  | c :: _ =>
    if isPlainPart c && !isDigit c then
      let plain := text.takeWhile isPlainPart
      match text.drop plain.length with
      | '-' :: rest =>
        some (plain.length + 1 + (rest.takeWhile fun d => isPlainPart d || d == '-').length)
      | _ => none
    else none
  | [] => none

private def digitRun (text : Text) : Nat :=
  (text.takeWhile fun c => isDigit c || c == '_').length

private def exponentLength : Text → Nat
  | e :: sign :: rest =>
    if e == 'e' || e == 'E' then
      if sign == '+' || sign == '-' then
        match digitRun rest with
        | 0 => 0
        | n => n + 2
      else
        match digitRun (sign :: rest) with
        | 0 => 0
        | n => n + 1
    else 0
  | _ => 0

private def decimalLength (text : Text) : Nat :=
  let whole := digitRun text
  match text.drop whole with
  | '.' :: rest =>
    let fraction := digitRun rest
    whole + 1 + fraction + exponentLength (rest.drop fraction)
  | 'n' :: _ => whole + 1
  | rest => whole + exponentLength rest

def numberLength (text : Text) : Option Nat :=
  match text with
  | '0' :: mark :: rest =>
    if "xXoObB".toList.contains mark then
      some (2 + (rest.takeWhile fun c => isHexDigit c || c == '_' || c == 'n').length)
    else some (decimalLength text)
  | '.' :: c :: _ => if isDigit c then some (decimalLength text) else none
  | c :: _ => if isDigit c then some (decimalLength text) else none
  | [] => none

/-! ## Strings, templates and regular expressions -/

def isEscape : Text → Bool
  | 'x' :: a :: b :: _ => isHexDigit a && isHexDigit b
  | 'u' :: '\x7b' :: rest =>
    rest.head?.any isHexDigit && (rest.dropWhile isHexDigit).head? == some '\x7d'
  | 'u' :: a :: b :: c :: d :: _ => [a, b, c, d].all isHexDigit
  | 'x' :: _ => false
  | 'u' :: _ => false
  | _ :: _ => true
  | [] => false

def stringTail (quote : Char) : Text → Option Nat
  | [] => none
  | '\\' :: '\r' :: '\n' :: rest => (stringTail quote rest).map (· + 3)
  | '\\' :: c :: rest =>
    if isEscape (c :: rest) then (stringTail quote rest).map (· + 2) else none
  | c :: rest =>
    if c = quote then some 1
    else if c = '\n' || c = '\r' then none
    else (stringTail quote rest).map (· + 1)

def stringLength : Text → Option Nat
  | '"' :: rest => (stringTail '"' rest).map (· + 1)
  | '\'' :: rest => (stringTail '\'' rest).map (· + 1)
  | _ => none

def templateRun : Text → Option Nat
  | [] => none
  | '\x60' :: _ => some 0
  | '$' :: '\x7b' :: _ => some 0
  | '\\' :: c :: rest =>
    if isEscape (c :: rest) then (templateRun rest).map (· + 2) else none
  | _ :: rest => (templateRun rest).map (· + 1)

/-- The rest of a pattern up to and with its slash; a slash between brackets does not end it. -/
def patternTail : Bool → Text → Option Nat
  | _, [] => none
  | _, '\n' :: _ => none
  | inClass, '\\' :: c :: rest =>
    if c = '\n' then none else (patternTail inClass rest).map (· + 2)
  | true, ']' :: rest => (patternTail false rest).map (· + 1)
  | false, '[' :: rest => (patternTail true rest).map (· + 1)
  | false, '/' :: _ => some 1
  | inClass, _ :: rest => (patternTail inClass rest).map (· + 1)

def patternLength : Text → Option Nat
  | '/' :: rest =>
    match rest with
    | '/' :: _ => none
    | '*' :: _ => none
    | _ =>
      (patternTail false rest).map fun n =>
        1 + n + ((rest.drop n).takeWhile fun c => 'a' ≤ c && c ≤ 'z').length
  | _ => none

/-! ## Comments -/

def blockCommentTail : Text → Option Nat
  | [] => none
  | '*' :: '/' :: _ => some 2
  | _ :: rest => (blockCommentTail rest).map (· + 1)

private def endsLine (c : Char) : Bool :=
  c == '\n' || c == '\r' || c == '\u2028' || c == '\u2029'

def commentLength : Text → Option Nat
  | '/' :: '/' :: rest => some (2 + (rest.takeWhile (!endsLine ·)).length)
  | '/' :: '*' :: rest => (blockCommentTail rest).map (· + 2)
  | _ => none

def markupCommentLength (text : Text) : Option Nat :=
  let toLineEnd := (text.takeWhile (!endsLine ·)).length
  match text with
  | '<' :: '!' :: '-' :: '-' :: _ => some toLineEnd
  | '-' :: '-' :: '>' :: _ => some toLineEnd
  | _ => none

/-! ## Markup -/

private def runOf (p : Char → Bool) (least most : Nat) (text : Text) : Option Nat :=
  let n := (text.takeWhile p).length
  if least ≤ n && n ≤ most && (text.drop n).head? == some ';' then some (n + 1) else none

def referenceTail : Text → Option Nat
  | '#' :: 'x' :: rest => (runOf isHexDigit 1 6 rest).map (· + 2)
  | '#' :: 'X' :: rest => (runOf isHexDigit 1 6 rest).map (· + 2)
  | '#' :: rest => (runOf isDigit 1 5 rest).map (· + 1)
  | text => runOf isAsciiLetter 1 30 text

/-- The rest of an attribute string up to and with its quote. An `&` before a letter or `#` must
begin a reference; before any other character the two stand for themselves, even a quote. -/
def markupStringTail (quote : Char) : Text → Option Nat
  | [] => none
  | '&' :: [] => none
  | '&' :: c :: rest =>
    if c = '#' || isAsciiLetter c then
      if (referenceTail (c :: rest)).isSome then (markupStringTail quote rest).map (· + 2)
      else none
    else (markupStringTail quote rest).map (· + 2)
  | c :: rest => if c = quote then some 1 else (markupStringTail quote rest).map (· + 1)

def markupStringLength : Text → Option Nat
  | '"' :: rest => (markupStringTail '"' rest).map (· + 1)
  | '\'' :: rest => (markupStringTail '\'' rest).map (· + 1)
  | _ => none

def endsMarkupText (c : Char) : Bool :=
  c == '<' || c == '>' || c == '\x7b' || c == '\x7d' || c == '&'

def markupTextLength (text : Text) : Nat :=
  (text.takeWhile (!endsMarkupText ·)).length

/-! ## Brackets -/

inductive BracketMode where
  | code
  | quoted (quote : Char)
  | lineComment
  | blockComment
  deriving DecidableEq, Repr

private def closerOf? (c : Char) : Option Char :=
  match c with
  | '(' => some ')'
  | '[' => some ']'
  | '\x7b' => some '\x7d'
  | _ => none

private def isClosing (c : Char) : Bool :=
  c == ')' || c == ']' || c == '\x7d'

private def isQuote (c : Char) : Bool :=
  c == '"' || c == '\'' || c == '\x60'

/-- The characters up to and with the last of `closers`, each of which closes a bracket that is
open, the innermost first. Strings and comments are passed over. -/
def bracketsTail : BracketMode → List Char → Text → Option Nat
  | _, _, [] => none
  | .lineComment, closers, c :: rest =>
    (bracketsTail (if c = '\n' then .code else .lineComment) closers rest).map (· + 1)
  | .blockComment, closers, '*' :: '/' :: rest => (bracketsTail .code closers rest).map (· + 2)
  | .blockComment, closers, _ :: rest => (bracketsTail .blockComment closers rest).map (· + 1)
  | .quoted quote, closers, '\\' :: _ :: rest =>
    (bracketsTail (.quoted quote) closers rest).map (· + 2)
  | .quoted quote, closers, c :: rest =>
    (bracketsTail (if c = quote then .code else .quoted quote) closers rest).map (· + 1)
  | .code, closers, '/' :: '/' :: rest => (bracketsTail .lineComment closers rest).map (· + 2)
  | .code, closers, '/' :: '*' :: rest => (bracketsTail .blockComment closers rest).map (· + 2)
  | .code, closers, c :: rest =>
    if isQuote c then (bracketsTail (.quoted c) closers rest).map (· + 1)
    else
      match closerOf? c, closers with
      | some closer, _ => (bracketsTail .code (closer :: closers) rest).map (· + 1)
      | none, [] => none
      | none, closer :: outer =>
        if c = closer then
          if outer.isEmpty then some 1 else (bracketsTail .code outer rest).map (· + 1)
        else if isClosing c then none
        else (bracketsTail .code closers rest).map (· + 1)

def bracketsLength : Text → Option Nat
  | [] => none
  | c :: rest =>
    match closerOf? c with
    | some closer => (bracketsTail .code [closer] rest).map (· + 1)
    | none => none

end TaggedMarkup.Grammar
