import TaggedMarkup.Grammar.Markup

/-!
# Expressions

An expression is read as a row of operands and operators. The order in which operators bind is of no
use here and is not worked out; what matters is where an operand may begin, for only there `<`
begins markup, a slash a regular expression, and a parenthesis an expression of its own.
-/

namespace TaggedMarkup.Grammar

open Reader

/-! ## Operators -/

def firstOf (texts : List String) (text : Text) : Option String :=
  texts.find? fun start => (afterStart? start.toList text).isSome

def assignmentOperator? (text : Text) : Option String :=
  match firstOf [">>>=", "**=", "<<=", ">>=", "&&=", "||=", "??=", "+=", "-=", "*=", "/=", "%=",
      "&=", "^=", "|="] text with
  | some operator => some operator
  | none =>
    match text with
    | '=' :: '=' :: _ => none
    | '=' :: '>' :: _ => none
    | '=' :: _ => some "="
    | _ => none

def binaryOperator? (text : Text) : Option String :=
  firstOf [">>>", "===", "!==", "**", "&&", "||", "??", "==", "!=", "<=", ">=", "<<", ">>", "<",
    ">", "+", "-", "*", "/", "%", "&", "^", "|"] text

/-- A question mark here begins a choice: it is no part of another operator, and does not mark a
parameter as optional. -/
def beginsChoice : Text → Bool
  | '?' :: '?' :: _ => false
  | '?' :: '.' :: c :: _ => isDigit c
  | '?' :: rest =>
    match (rest.dropWhile isGap).head? with
    | some c => !(c == ':' || c == ')' || c == ',')
    | none => true
  | _ => false

/-! ## Functions -/

def block (rules : Rules) : Reader Unit :=
  node (.other "statement_block") do
    token "\x7b"
    within {} (many rules.statement)
    token "\x7d"

def callSignature (rules : Rules) : Reader Unit := do
  if ← isNext "<" then typeParameters rules
  parameters rules
  typeAnnotation rules

def arrowBody (rules : Rules) : Reader Unit := do
  token "=>"
  if ← isNext "\x7b" then block rules <|> rules.expression else rules.expression

def arrowFunction (rules : Rules) : Reader Unit := do
  callSignature rules
  arrowBody rules

def functionExpression (rules : Rules) : Reader Unit := do
  if (← nextWord) == "async" then token "async"
  word "function"
  optionally (token "*")
  if (← nextWord) != "" then name
  callSignature rules
  block rules

/-! ## Objects and arrays -/

def computedName (rules : Rules) : Reader Unit :=
  bracketed (do token "["; rules.expression; token "]")

def memberKey (rules : Rules) : Reader Unit := do
  match ← ahead with
  | '[' :: _ => computedName rules
  | '"' :: _ => stringLexeme
  | '\'' :: _ => stringLexeme
  | '#' :: _ => do token "#"; name
  | text => if (nameLength text).isSome then name else numberLexeme

def methodModifier : Reader Unit := do
  match ← ahead with
  | '*' :: _ => token "*"
  | _ =>
    let text ← nextWord
    ensure (["async", "get", "set"].contains text)
    match ← aheadOfWord with
    | c :: _ => ensure !("(,:=?<\x7d".toList.contains c)
    | [] => failure
    token text

def memberRest (rules : Rules) : Reader Unit := do
  match ← ahead with
  | ':' :: _ => do token ":"; rules.expression
  | '(' :: _ => do callSignature rules; block rules
  | '<' :: _ => do callSignature rules; block rules
  | _ => initializer rules

def objectMember (rules : Rules) : Reader Unit := do
  if ← isNext "..." then spreadElement rules
  else
    many methodModifier
    memberKey rules
    memberRest rules

def objectLiteral (rules : Rules) : Reader Unit :=
  node (.other "object") <| bracketed do
    token "\x7b"
    listed (node (.other "pair") (objectMember rules))
    token "\x7d"

def arrayLiteral (rules : Rules) : Reader Unit :=
  node (.other "array") <| bracketed do
    token "["
    listed (spreadable rules)
    token "]"

def pattern (rules : Rules) : Reader Unit := do
  match ← ahead with
  | '\x7b' :: _ => objectLiteral rules
  | '[' :: _ => arrayLiteral rules
  | _ => if (← nextWord) == "this" then name else variableName

/-! ## Classes -/

def memberModifier : Reader Unit := do
  match ← ahead with
  | '*' :: _ => token "*"
  | _ =>
    let text ← nextWord
    ensure (["public", "private", "protected", "static", "override", "readonly", "abstract",
      "declare", "accessor", "async", "get", "set"].contains text)
    match ← aheadOfWord with
    | c :: _ => ensure !("(,:;=?!<\x7d".toList.contains c)
    | [] => failure
    token text

def indexSignature (rules : Rules) : Reader Unit := do
  bracketed (do token "["; name; token ":"; rules.typeTerm; token "]")
  typeAnnotation rules

def memberEnd : Reader Unit :=
  token "," <|> closingSemicolon

def fieldRest (rules : Rules) : Reader Unit := do
  typeAnnotation rules
  if ← isNext "=" then
    initializer rules
    token "," <|> semicolon
  else memberEnd

def classMemberRest (rules : Rules) : Reader Unit := do
  optionally (token "?" <|> token "!")
  match ← ahead with
  | '(' :: _ => do callSignature rules; (do block rules; optionally (token ";")) <|> memberEnd
  | '<' :: _ => do callSignature rules; (do block rules; optionally (token ";")) <|> memberEnd
  | _ => fieldRest rules

def classMember (rules : Rules) : Reader Unit := do
  if ← isNext ";" then token ";"
  else
    node (.other "class_member") do
      many (decorator rules)
      (do word "static"; block rules) <|> (do
        many memberModifier
        (do indexSignature rules; memberEnd) <|> (do memberKey rules; classMemberRest rules))

def classBody (rules : Rules) : Reader Unit :=
  node (.other "class_body") do
    token "\x7b"
    within {} (many (classMember rules))
    token "\x7d"

/-! ## Parentheses -/

/-- What stands between parentheses: how many items, and whether some of them can only be the
parameters of a function. -/
structure Group where
  count : Nat := 0
  typed : Bool := false
  parametersOnly : Bool := false

def Group.isValue (group : Group) : Bool :=
  group.count != 0 && !group.parametersOnly && (!group.typed || group.count == 1)

def groupItem (rules : Rules) (group : Group) : Reader Group := do
  if ← isNext "..." then
    token "..."
    rules.pattern
    typeAnnotation rules
    return { group with count := group.count + 1, parametersOnly := true }
  else
    rules.expression
    let optional ← isNext "?"
    if optional then token "?"
    let typed ← isNext ":"
    typeAnnotation rules
    let given ← isNext "="
    initializer rules
    return {
      count := group.count + 1
      typed := group.typed || typed
      parametersOnly := group.parametersOnly || optional || given }

/-- The items up to the closing parenthesis; nothing after a comma, or at all, makes no value. -/
def groupItems (rules : Rules) : Nat → Group → Reader Group
  | 0, group => pure group
  | fuel + 1, group => do
    if ← isNext ")" then
      return { group with parametersOnly := true }
    else
      let group ← groupItem rules group
      if ← isNext "," then
        token ","
        groupItems rules fuel group
      else
        return group

/-- The type of the result, and the body. Before a colon, such a function must leave one. -/
def typedArrow (rules : Rules) : Reader Unit := do
  typeAnnotation rules
  arrowBody rules
  if (← get).context.beforeColon then ensure (← isNext ":")

def group (rules : Rules) : Reader Unit := do
  trivia
  let fuel := (← get).remaining + 1
  let (group, start, children) ← captured <| bracketed do
    token "("
    let group ← groupItems rules fuel {}
    token ")"
    return group
  let parameters := emit (.other "formal_parameters") start children
  let value : Reader Unit := do
    ensure group.isValue
    emit .parenthesized start children
  match ← ahead with
  | '=' :: '>' :: _ => do parameters; arrowBody rules
  -- the colon may be that of a choice around the parentheses
  | ':' :: _ => (do parameters; typedArrow rules) <|> value
  | _ => value

/-! ## Operands -/

def template (rules : Rules) : Reader Unit :=
  templateLiteral (expressions rules)

def mayFollowArguments : Text → Bool
  | c :: _ => ")],;:\x7d".toList.contains c
  | [] => true

def appliedType (rules : Rules) : Reader Unit := do
  typeArguments rules
  match ← ahead with
  | '(' :: _ => callArguments rules
  | '\x60' :: _ => template rules
  | text => ensure (mayFollowArguments text)

def propertyName : Reader Unit := do
  if ← isNext "#" then token "#"
  name

def optionalPart (rules : Rules) : Reader Unit := do
  match ← ahead with
  | '(' :: _ => callArguments rules
  | '[' :: _ => bracketed (do token "["; expressions rules; token "]")
  | '\x60' :: _ => template rules
  | '<' :: _ => do typeArguments rules; callArguments rules
  | _ => propertyName

def operandSuffix (rules : Rules) : Reader Unit := do
  match ← ahead with
  -- dots of a spread
  | '.' :: '.' :: _ => failure
  | '.' :: _ => do token "."; propertyName
  | '?' :: '.' :: rest => do
    -- `a?.5:b` is a choice
    ensure !(rest.head?.any isDigit)
    token "?."
    optionalPart rules
  | '[' :: _ => bracketed (do token "["; expressions rules; token "]")
  | '(' :: _ => callArguments rules
  | '\x60' :: _ => template rules
  | '<' :: _ => appliedType rules
  | '!' :: '=' :: _ => failure
  | '!' :: _ => do ensure !(← brokenOff); token "!"
  | '+' :: '+' :: _ => do ensure !(← brokenOff); token "++"
  | '-' :: '-' :: _ => do ensure !(← brokenOff); token "--"
  | _ => failure

def classHeritage (rules : Rules) (ancestor : Reader Unit) : Reader Unit := do
  if (← nextWord) == "extends" then
    token "extends"
    separated (do ancestor; optionally (typeArguments rules))
  if (← nextWord) == "implements" then
    token "implements"
    separated rules.typeTerm

def className : Reader Unit := do
  let text ← nextWord
  ensure (text != "extends" && text != "implements")
  name

/-- A class after its name, with `ancestor` for what it is derived from. -/
def classRest (rules : Rules) (ancestor : Reader Unit) : Reader Unit := do
  if ← isNext "<" then typeParameters rules
  classHeritage rules ancestor
  classBody rules

def classExpression (rules : Rules) (ancestor : Reader Unit) : Reader Unit :=
  node (.other "class") do
    many (decorator rules)
    word "class"
    optionally className
    classRest rules ancestor

def nameOrArrow (rules : Rules) : Reader Unit := do
  name
  if ← isNext "=>" then arrowBody rules

def asyncOperand (rules : Rules) : Reader Unit :=
  functionExpression rules <|>
    (do token "async"; variableName; arrowBody rules) <|>
    (do token "async"; arrowFunction rules) <|>
    nameOrArrow rules

def wordOperand (rules : Rules) (text : String) (ancestor : Reader Unit) : Reader Unit :=
  match text with
  | "" => numberLexeme
  | "function" => functionExpression rules
  | "async" => asyncOperand rules
  | "class" => classExpression rules ancestor
  | "import" => do
    match ← aheadOfWord with
    | '(' :: _ => name
    | '.' :: _ => name
    | _ => failure
  | _ =>
    if ["this", "super", "null", "true", "false", "new"].contains text then name
    else do
      ensure (!isReserved text)
      nameOrArrow rules

def primary (rules : Rules) (ancestor : Reader Unit) : Reader Unit := do
  let text ← ahead
  match text with
  | '(' :: _ => group rules
  | '[' :: _ => arrayLiteral rules
  | '\x7b' :: _ => objectLiteral rules
  | '<' :: _ => arrowFunction rules <|> rules.element
  | '"' :: _ => stringLexeme
  | '\'' :: _ => stringLexeme
  | '\x60' :: _ => template rules
  | '/' :: _ => lexeme (.other "regex") patternLength
  | '#' :: _ => do token "#"; name
  | '@' :: _ => classExpression rules ancestor
  | _ => wordOperand rules (wordOf text) ancestor

def operandPrefix : Reader Unit := do
  operandTrivia
  match ← ahead with
  | '!' :: _ => token "!"
  | '~' :: _ => token "~"
  | '+' :: '+' :: _ => token "++"
  | '+' :: _ => token "+"
  | '-' :: '-' :: _ => token "--"
  | '-' :: _ => token "-"
  | _ =>
    let text ← nextWord
    if text == "new" then
      match ← aheadOfWord with
      | '.' :: _ => failure
      | _ => token "new"
    else
      ensure (["typeof", "void", "delete", "await"].contains text)
      token text

def yieldOperand (rules : Rules) : Reader Unit := do
  token "yield"
  if ← isNext "*" then
    token "*"
    rules.expression
  else if !(← brokenOff) then
    optionally rules.expression

def derivable (rules : Rules) : Reader Unit := do
  primary rules failure
  many (operandSuffix rules)

def operand (rules : Rules) : Reader Unit := do
  operandTrivia
  many operandPrefix
  if (← nextWord) == "yield" then yieldOperand rules
  else
    primary rules (derivable rules)
    many (operandSuffix rules)

/-! ## Expressions -/

def operatorRest (rules : Rules) : Reader Unit := do
  let text ← ahead
  ensure (assignmentOperator? text).isNone
  match binaryOperator? text with
  | some operator => do token operator; operand rules
  | none =>
    match wordOf text with
    | "in" => do ensure !(← get).context.beforeIn; token "in"; operand rules
    | "instanceof" => do token "instanceof"; operand rules
    | "as" => do ensure !(← brokenOff); token "as"; word "const" <|> rules.typeTerm
    | "satisfies" => do ensure !(← brokenOff); token "satisfies"; rules.typeTerm
    | _ => failure

def choiceRest (rules : Rules) : Reader Unit := do
  token "?"
  within { atLineEnd := false, beforeColon := true } rules.expression
  token ":"
  rules.expression

def expression (rules : Rules) : Reader Unit :=
  phrase do
    operand rules
    many (operatorRest rules)
    let text ← ahead
    match assignmentOperator? text with
    | some operator => do token operator; rules.expression
    | none => if beginsChoice text then choiceRest rules else pure ()

end TaggedMarkup.Grammar
