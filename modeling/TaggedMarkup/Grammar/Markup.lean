import TaggedMarkup.Grammar.Types

/-!
# Markup

Elements, fragments, attributes and what stands between tags. The name of a closing tag need not be
that of the opening tag. Between tags every character counts: comments are text there, and blanks
belong to the text.
-/

namespace TaggedMarkup.Grammar

open Reader

/-! ## Names -/

def markupName : Reader Unit :=
  lexeme (.other "identifier") fun text => (hyphenatedLength text).or (nameLength text)

def isPlainNameNext : Reader Bool := do
  return (hyphenatedLength (← ahead)).isNone

def namespacedName : Reader Unit := do
  let (_, start, children) ← do trivia; captured do
    markupName
    optionally (do token ":"; markupName)
  match children with
  | [only] => modify fun input => { input with nodes := only :: input.nodes }
  | _ => emit (.other "jsx_namespace_name") start children

def memberName (rules : Rules) : Reader Unit := do
  ensure (← isPlainNameNext)
  let (_, start, children) ← do trivia; captured do
    name
    many dottedName
  ensure !(← isNext ":")
  match children with
  | [only] => modify fun input => { input with nodes := only :: input.nodes }
  | _ => emit (.other "member_expression") start children
  mark .name
  optionally (typeArguments rules)

def tagName (rules : Rules) : Reader Unit :=
  memberName rules <|> (do namespacedName; mark .name)

/-! ## Containers and attributes -/

def expressions (rules : Rules) : Reader Unit :=
  phrase (separated rules.expression)

/-- Braces around an expression, a spread, or nothing. -/
def container (rules : Rules) : Reader Unit :=
  node .container <| bracketed do
    token "\x7b"
    if ← isNext "..." then spreadElement rules
    else if !(← isNext "\x7d") then expressions rules
    token "\x7d"

def attributeValue (rules : Rules) : Reader Unit := do
  match ← ahead with
  | '\x7b' :: _ => container rules
  | '<' :: _ => rules.element
  | _ => lexeme .string markupStringLength

def attributeNode (rules : Rules) : Reader Unit := do
  match ← ahead with
  | '\x7b' :: _ => container rules
  | _ =>
    node .attr do
      namespacedName
      if ← isNext "=" then
        token "="
        attributeValue rules

/-! ## Elements -/

def textReference : Reader Unit := do
  exactly "&"
  let input ← get
  match referenceTail input.rest with
  | some count => set (input.advance count)
  | none => failure

def textRun : Reader Unit := do
  let input ← get
  match markupTextLength input.rest with
  | 0 => failure
  | count => set (input.advanceLeaf (.other "jsx_text") true count)

/-- A comment between tags, which hides the rest of its line. -/
def hiddenRun : Reader Unit := do
  let input ← get
  match markupCommentLength input.rest with
  | some count => set (input.advanceLeaf (.other "html_comment") true count)
  | none => failure

def markupChild (rules : Rules) : Reader Unit := do
  match (← get).rest with
  | '<' :: '/' :: _ => failure
  | '<' :: '!' :: _ => hiddenRun
  | '<' :: _ => rules.element
  | '\x7b' :: _ => container rules
  | '&' :: _ => textReference
  | _ => textRun

def memberChain : Reader Unit := do
  ensure (← isPlainNameNext)
  name
  many dottedName
  ensure !(← isNext ":")

def closingTag : Reader Unit := do
  nodeHere .closing do
    exactly "</"
    if !(← isNext ">") then memberChain <|> namespacedName
    token ">"
  mark .closeTag

def tagContents (rules : Rules) : Reader Unit := do
  token "<"
  if !((← isNext ">") || (← isNext "/>")) then
    tagName rules
    many (attributeNode rules)

def emitTag (kind : Kind) (start : Nat) (inside : List Node) (ending : String) :
    Reader Unit := do
  let (_, _, last) ← captured (token ending)
  emit kind start (inside ++ last)

def element (rules : Rules) : Reader Unit := do
  trivia
  let (_, start, inside) ← bracketed (captured (tagContents rules))
  if ← isNext "/>" then
    emitTag .selfClosing start inside "/>"
  else
    let (_, _, children) ← captured do
      emitTag .opening start inside ">"
      mark .openTag
      many (markupChild rules)
      closingTag
    emit .element start children

end TaggedMarkup.Grammar
