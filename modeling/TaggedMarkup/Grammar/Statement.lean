import TaggedMarkup.Grammar.Expression

/-!
# Statements

Statements and declarations. A condition stands between parentheses that are an expression of their
own; the parentheses of a loop over values and of a caught value are not.
-/

namespace TaggedMarkup.Grammar

open Reader

/-! ## Simple statements -/

def expressionStatement (rules : Rules) : Reader Unit :=
  node (.other "expression_statement") (do expressions rules; semicolon)

def condition (rules : Rules) : Reader Unit :=
  node .parenthesized <| bracketed do
    token "("
    expressions rules
    token ")"

def labeledStatement (rules : Rules) : Reader Unit :=
  node (.other "labeled_statement") do
    variableName
    token ":"
    rules.statement

def returnStatement (rules : Rules) : Reader Unit :=
  node (.other "return_statement") do
    token "return"
    if (← atStatementEnd false) || (← isNext ";") then closingSemicolon
    else
      expressions rules
      semicolon

def throwStatement (rules : Rules) : Reader Unit :=
  node (.other "throw_statement") (do token "throw"; expressions rules; semicolon)

def jumpStatement (text : String) : Reader Unit :=
  node (.other "jump_statement") do
    token text
    if !(← atStatementEnd false) then
      if !(← isNext ";") then name
    closingSemicolon

/-! ## Declarations of variables -/

def declarator (rules : Rules) : Reader Unit :=
  node (.other "variable_declarator") do
    rules.pattern
    optionally (token "!")
    typeAnnotation rules
    initializer rules

def declarators (rules : Rules) (text : String) : Reader Unit := do
  token text
  separated (declarator rules)

/-- The node just added holds a value. -/
def endsInValue : Reader Bool := do
  return (← get).nodes.head?.any fun last => last.children.any (·.kind == .other "=")

def variableDeclaration (rules : Rules) (text : String) : Reader Unit :=
  node (.other (if text = "var" then "variable_declaration" else "lexical_declaration")) do
    declarators rules text
    if ← endsInValue then semicolon else closingSemicolon

/-! ## Control -/

def ifStatement (rules : Rules) : Reader Unit :=
  node (.other "if_statement") do
    token "if"
    condition rules
    rules.statement
    if (← nextWord) == "else" then
      token "else"
      rules.statement

def whileStatement (rules : Rules) : Reader Unit :=
  node (.other "while_statement") do
    token "while"
    condition rules
    rules.statement

def doStatement (rules : Rules) : Reader Unit :=
  node (.other "do_statement") do
    token "do"
    rules.statement
    word "while"
    condition rules
    optionally (token ";")

def withStatement (rules : Rules) : Reader Unit :=
  node (.other "with_statement") do
    token "with"
    condition rules
    rules.statement

def loopStart (rules : Rules) : Reader Unit :=
  within { Context.bracketed with beforeIn := true } do
    let text ← nextWord
    if ["var", "let", "const"].contains text then
      declarators rules text <|> expressions rules
    else
      expressions rules

def loopHead (rules : Rules) : Reader Unit := do
  if !(← isNext ";") then loopStart rules
  match ← nextWord with
  | "of" => do token "of"; expressions rules
  | "in" => do token "in"; expressions rules
  | _ => do
    token ";"
    if !(← isNext ";") then expressions rules
    token ";"
    if !(← isNext ")") then expressions rules

def forStatement (rules : Rules) : Reader Unit :=
  node (.other "for_statement") do
    token "for"
    if (← nextWord) == "await" then token "await"
    bracketed (do token "("; loopHead rules; token ")")
    rules.statement

def catchClause (rules : Rules) : Reader Unit := do
  word "catch"
  if ← isNext "(" then
    bracketed (do token "("; rules.pattern; typeAnnotation rules; token ")")
  block rules

def tryStatement (rules : Rules) : Reader Unit :=
  node (.other "try_statement") do
    token "try"
    block rules
    optionally (catchClause rules)
    if (← nextWord) == "finally" then
      token "finally"
      block rules

def switchCase (rules : Rules) : Reader Unit := do
  match ← nextWord with
  | "case" => do
    token "case"
    within { atLineEnd := false, beforeColon := true } (expressions rules)
  | _ => word "default"
  token ":"
  many rules.statement

def switchStatement (rules : Rules) : Reader Unit :=
  node (.other "switch_statement") do
    token "switch"
    condition rules
    token "\x7b"
    within {} (many (node (.other "switch_case") (switchCase rules)))
    token "\x7d"

/-! ## Declarations -/

def functionHead : Reader Unit := do
  if (← nextWord) == "async" then token "async"
  word "function"
  optionally (token "*")
  name

/-- A function with its body, or only its signature. -/
def functionDeclaration (rules : Rules) : Reader Unit :=
  node (.other "function_declaration") do
    functionHead
    callSignature rules
    block rules <|> closingSemicolon

def classHead : Reader Unit := do
  if (← nextWord) == "abstract" then token "abstract"
  word "class"
  className

def classDeclaration (rules : Rules) : Reader Unit :=
  node (.other "class_declaration") do
    classHead
    classRest rules (derivable rules)

/-- A function or a class that has a name; `otherwise` reads what is neither. -/
def declarationOr (rules : Rules) (otherwise : Reader Unit) : Reader Unit := do
  if ← wouldRead functionHead then functionDeclaration rules
  else if ← wouldRead classHead then classDeclaration rules
  else otherwise

def typeAlias (rules : Rules) : Reader Unit :=
  node (.other "type_alias_declaration") do
    token "type"
    name
    if ← isNext "<" then typeParameters rules
    token "="
    rules.typeTerm
    closingSemicolon

def interfaceDeclaration (rules : Rules) : Reader Unit :=
  node (.other "interface_declaration") do
    token "interface"
    name
    if ← isNext "<" then typeParameters rules
    if (← nextWord) == "extends" then
      token "extends"
      separated rules.typeTerm
    lexeme (.other "interface_body") bracketsLength

def enumDeclaration (rules : Rules) : Reader Unit :=
  node (.other "enum_declaration") do
    optionally (word "const")
    word "enum"
    name
    bracketed do
      token "\x7b"
      listed (do memberKey rules; initializer rules)
      token "\x7d"

def moduleDeclaration (rules : Rules) : Reader Unit :=
  node (.other "module") do
    let text ← nextWord
    ensure (["module", "namespace", "global"].contains text)
    token text
    if text != "global" then stringLexeme <|> entityName
    block rules <|> closingSemicolon

def ambientDeclaration (rules : Rules) : Reader Unit :=
  node (.other "ambient_declaration") do
    token "declare"
    ensure ((← nextWord) != "")
    rules.statement

/-! ## Imports and exports -/

def braceList : Reader Unit :=
  lexeme (.other "named_list") bracketsLength

def importAttributes : Reader Unit := do
  if ["with", "assert"].contains (← nextWord) then
    optionally (do name; braceList)

def namesModule : Reader Bool := do
  match ← aheadOfWord with
  | '"' :: _ => return (← nextWord) == "from"
  | '\'' :: _ => return (← nextWord) == "from"
  | _ => return false

def importItem : Reader Unit := do
  match ← ahead with
  | '\x7b' :: _ => braceList
  | '*' :: _ => do token "*"; word "as"; name
  | ',' :: _ => token ","
  | _ => do ensure !(← namesModule); name

/-- What a name for an import stands for: a required module, or a qualified name. -/
def importAlias : Reader Unit := do
  token "="
  (do word "require"; bracketed (do token "("; stringLexeme; token ")")) <|> entityName

def importStatement : Reader Unit :=
  node (.other "import_statement") do
    token "import"
    (do stringLexeme; importAttributes) <|> (do
      many importItem
      (do word "from"; stringLexeme; importAttributes) <|> importAlias)
    closingSemicolon

def exported (rules : Rules) : Reader Unit := do
  match ← ahead with
  | '*' :: _ => do
    token "*"
    if (← nextWord) == "as" then
      token "as"
      name <|> stringLexeme
    word "from"
    stringLexeme
    importAttributes
    closingSemicolon
  | '\x7b' :: _ => do
    braceList
    if (← nextWord) == "from" then
      token "from"
      stringLexeme
      importAttributes
    closingSemicolon
  | '=' :: _ => do token "="; expressions rules; semicolon
  | _ => failure

def exportedDefault (rules : Rules) : Reader Unit := do
  word "default"
  match ← nextWord with
  | "interface" => interfaceDeclaration rules <|> (do expressions rules; semicolon)
  | _ => declarationOr rules (do expressions rules; semicolon)

def exportStatement (rules : Rules) : Reader Unit :=
  node (.other "export_statement") do
    token "export"
    exported rules <|> exportedDefault rules <|>
      (do word "as"; word "namespace"; name; closingSemicolon) <|>
      (do word "type"; exported rules) <|> rules.statement

/-! ## Statements -/

def decoratedStatement (rules : Rules) : Reader Unit := do
  many (decorator rules)
  if (← nextWord) == "export" then exportStatement rules else classDeclaration rules

def plainStatement (rules : Rules) : Reader Unit :=
  labeledStatement rules <|> expressionStatement rules

def wordStatement (rules : Rules) (text : String) : Reader Unit :=
  match text with
  | "import" => importStatement <|> expressionStatement rules
  | "export" => exportStatement rules
  | "var" => variableDeclaration rules text
  | "let" => variableDeclaration rules text <|> plainStatement rules
  | "const" => enumDeclaration rules <|> variableDeclaration rules text
  | "if" => ifStatement rules
  | "for" => forStatement rules
  | "while" => whileStatement rules
  | "do" => doStatement rules
  | "switch" => switchStatement rules
  | "try" => tryStatement rules
  | "with" => withStatement rules
  | "return" => returnStatement rules
  | "throw" => throwStatement rules
  | "break" => jumpStatement text
  | "continue" => jumpStatement text
  | "debugger" => do token text; closingSemicolon
  | "type" => typeAlias rules <|> plainStatement rules
  | "interface" => interfaceDeclaration rules <|> plainStatement rules
  | "enum" => enumDeclaration rules
  | "module" => moduleDeclaration rules <|> plainStatement rules
  | "namespace" => moduleDeclaration rules <|> plainStatement rules
  | "global" => moduleDeclaration rules <|> plainStatement rules
  | "declare" => ambientDeclaration rules <|> plainStatement rules
  | _ => declarationOr rules (plainStatement rules)

def statement (rules : Rules) : Reader Unit :=
  within {} do
    operandTrivia
    let text ← ahead
    match text with
    | '\x7b' :: _ => block rules <|> expressionStatement rules
    | ';' :: _ => token ";"
    | '@' :: _ => decoratedStatement rules
    | _ => wordStatement rules (wordOf text)

end TaggedMarkup.Grammar
