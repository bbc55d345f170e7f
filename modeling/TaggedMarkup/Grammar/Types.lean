import TaggedMarkup.Grammar.Reader

/-!
# Types

Types, type parameters, and the parameters of functions. No markup stands in a type, so a type
becomes one node of little structure.
-/

namespace TaggedMarkup.Grammar

open Reader

/-! ## Names and literals -/

def isReserved (text : String) : Bool :=
  ["break", "case", "catch", "class", "const", "continue", "debugger", "default", "delete", "do",
    "else", "enum", "export", "extends", "false", "finally", "for", "function", "if", "import",
    "in", "instanceof", "new", "null", "return", "super", "switch", "this", "throw", "true", "try",
    "typeof", "var", "void", "while", "with", "yield", "await"].contains text

def variableName : Reader Unit := do
  let text ← nextWord
  ensure (!isReserved text)
  name

def stringLexeme : Reader Unit :=
  lexeme .string stringLength

def numberLexeme : Reader Unit :=
  lexeme (.other "number") numberLength

def templateText : Reader Unit := do
  let input ← get
  match templateRun input.rest with
  | some count => set (input.advance count)
  | none => failure

def templateHole (hole : Reader Unit) : Reader Unit := do
  nodeHere (.other "template_substitution") (do exactly "$\x7b"; bracketed hole; token "\x7d")
  templateText

/-- A template, whose holes are read by `hole`. -/
def templateLiteral (hole : Reader Unit) : Reader Unit :=
  node (.other "template_string") do
    token "\x60"
    templateText
    many (templateHole hole)
    exactly "\x60"

def dottedName : Reader Unit := do
  ensure !(← isNext "..")
  token "."
  name

def entityName : Reader Unit := do
  name
  many dottedName

/-! ## Type arguments and decorators -/

def typeArguments (rules : Rules) : Reader Unit :=
  node (.other "type_arguments") <| bracketed do
    token "<"
    separated rules.typeTerm
    optionally (token ",")
    token ">"

def spreadElement (rules : Rules) : Reader Unit :=
  node .spread (do token "..."; rules.expression)

def spreadable (rules : Rules) : Reader Unit := do
  if ← isNext "..." then spreadElement rules else rules.expression

def callArguments (rules : Rules) : Reader Unit :=
  node (.other "arguments") <| bracketed do
    token "("
    listed (spreadable rules)
    token ")"

def decoratorTerm (rules : Rules) : Reader Unit := do
  entityName
  optionally (do optionally (typeArguments rules); callArguments rules)

def decorator (rules : Rules) : Reader Unit :=
  node (.other "decorator") do
    token "@"
    if ← isNext "(" then bracketed (do token "("; decoratorTerm rules; token ")")
    else decoratorTerm rules

/-! ## Parameters -/

private def startsPattern (text : Text) : Bool :=
  match text with
  | '\x7b' :: _ => true
  | '[' :: _ => true
  | '.' :: '.' :: '.' :: _ => true
  | _ => (nameLength text).isSome

def parameterModifier : Reader Unit := do
  let text ← nextWord
  ensure (["public", "private", "protected", "readonly", "override"].contains text)
  ensure (startsPattern (← aheadOfWord))
  token text

def typeAnnotation (rules : Rules) : Reader Unit := do
  if ← isNext ":" then
    node (.other "type_annotation") (do token ":"; rules.typeTerm)

def initializer (rules : Rules) : Reader Unit := do
  match ← ahead with
  | '=' :: '=' :: _ => pure ()
  | '=' :: '>' :: _ => pure ()
  | '=' :: _ => do token "="; rules.expression
  | _ => pure ()

def parameter (rules : Rules) : Reader Unit := do
  many (decorator rules)
  many parameterModifier
  optionally (token "...")
  rules.pattern
  optionally (token "?")
  typeAnnotation rules
  initializer rules

def parameters (rules : Rules) : Reader Unit :=
  node (.other "formal_parameters") <| bracketed do
    token "("
    listed (parameter rules)
    token ")"

/-! ## Type parameters -/

def typeParameter (rules : Rules) : Reader Unit := do
  optionally (do word "const"; ensure ((← nextWord) != ""))
  variableName
  if (← nextWord) == "extends" then
    token "extends"
    rules.typeTerm
  if ← isNext "=" then
    token "="
    rules.typeTerm

def typeParameters (rules : Rules) : Reader Unit :=
  node (.other "type_parameters") <| bracketed do
    token "<"
    separated (typeParameter rules)
    optionally (token ",")
    token ">"

/-! ## Types -/

/-- A named type with its arguments; in the place of a result also a test such as `x is T`. -/
def typeReference (rules : Rules) : Reader Unit := do
  entityName
  optionally (typeArguments rules)
  if (← nextWord) == "is" then
    optionally (do token "is"; rules.typeTerm)

def functionType (rules : Rules) : Reader Unit := do
  if ← isNext "<" then typeParameters rules
  parameters rules
  token "=>"
  rules.typeTerm

def tupleElement (rules : Rules) : Reader Unit := do
  optionally (token "...")
  optionally (do name; optionally (token "?"); token ":")
  rules.typeTerm
  optionally (token "?")

def importType : Reader Unit := do
  word "import"
  bracketed (do token "("; stringLexeme; token ")")
  many dottedName

def inferredType (rules : Rules) : Reader Unit := do
  token "infer"
  name
  if (← nextWord) == "extends" then
    optionally (do token "extends"; rules.typeTerm)

def wordType (rules : Rules) (text : String) : Reader Unit :=
  match text with
  | "" => numberLexeme
  | "new" => do token "new"; functionType rules
  | "abstract" => (do token "abstract"; word "new"; functionType rules) <|> typeReference rules
  | "typeof" => do token "typeof"; importType <|> entityName; optionally (typeArguments rules)
  | "import" => do importType; optionally (typeArguments rules)
  | "infer" => inferredType rules <|> typeReference rules
  | "asserts" =>
    (do token "asserts"; name; if (← nextWord) == "is" then token "is"; rules.typeTerm) <|>
      typeReference rules
  | "keyof" => (do token "keyof"; rules.typeTerm) <|> typeReference rules
  | "unique" => (do token "unique"; rules.typeTerm) <|> typeReference rules
  | "readonly" => (do token "readonly"; rules.typeTerm) <|> typeReference rules
  | _ => do
    ensure (!isReserved text || ["this", "void", "null", "true", "false"].contains text)
    typeReference rules

def primaryType (rules : Rules) : Reader Unit := do
  let text ← ahead
  match text with
  | '\x7b' :: _ => lexeme (.other "object_type") bracketsLength
  | '[' :: _ => bracketed (do token "["; listed (tupleElement rules); token "]")
  | '(' :: _ =>
    functionType rules <|> bracketed (do token "("; rules.typeTerm; token ")")
  | '<' :: _ => functionType rules
  | '\x60' :: _ => templateLiteral rules.typeTerm
  | '"' :: _ => stringLexeme
  | '\'' :: _ => stringLexeme
  | '-' :: _ => do token "-"; numberLexeme
  | _ => wordType rules (wordOf text)

/-- Square brackets after a type, on the same line. -/
def typeSuffix (rules : Rules) : Reader Unit := do
  let broken ← atStatementEnd false
  ensure (!broken || !(← get).context.atLineEnd)
  bracketed (do token "["; optionally rules.typeTerm; token "]")

def operandType (rules : Rules) : Reader Unit := do
  primaryType rules
  many (typeSuffix rules)

def typeOperator : Reader Unit := do
  match ← ahead with
  | '|' :: '|' :: _ => failure
  | '&' :: '&' :: _ => failure
  | '|' :: _ => token "|"
  | '&' :: _ => token "&"
  | _ => failure

def conditionalTail (rules : Rules) : Reader Unit := do
  word "extends"
  rules.typeTerm
  token "?"
  rules.typeTerm
  token ":"
  rules.typeTerm

def typeTerm (rules : Rules) : Reader Unit :=
  node (.other "type") do
    optionally typeOperator
    operandType rules
    many (do typeOperator; operandType rules)
    optionally (conditionalTail rules)

end TaggedMarkup.Grammar
