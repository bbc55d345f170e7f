import TaggedMarkup.Element.Basic
import TaggedMarkup.Proofs.Template.Quasis
import TaggedMarkup.Text.Blank

/-!
# Reading markup

A template read back as an element tree.  Its quasis, unescaped, and its holes
make one sequence of symbols, and that sequence is read as markup: content is
text without `<`, holes and elements; an element has a name, attributes after
one space each, and either ends in `/>` or has content and a closing tag with
the same name; a name is a word or one hole; an attribute is three dots and a
hole, or a word with perhaps a value, a hole or a text between quotes.  What a
hole holds is read in the same way, so the trees inside expressions come back
too.
-/

namespace TaggedMarkup

/-! ## Equal holes -/

mutual

def Template.decEq : (first second : Template) → Decidable (first = second)
  | ⟨tag, quasis, holes⟩, ⟨tag', quasis', holes'⟩ =>
    have := decEqHoles holes holes'
    decidable_of_iff (tag = tag' ∧ quasis = quasis' ∧ holes = holes') (by simp)
termination_by structural first => first

def Hole.decEq : (first second : Hole) → Decidable (first = second)
  | .source parts, .source parts' =>
    have := decEqParts parts parts'
    decidable_of_iff (parts = parts') (by simp)
  | .literal text, .literal text' => decidable_of_iff (text = text') (by simp)
  | .template template, .template template' =>
    have := template.decEq template'
    decidable_of_iff (template = template') (by simp)
  | .blank, .blank => .isTrue rfl
  | .source _, .literal _ | .source _, .template _ | .source _, .blank
  | .literal _, .source _ | .literal _, .template _ | .literal _, .blank
  | .template _, .source _ | .template _, .literal _ | .template _, .blank
  | .blank, .source _ | .blank, .literal _ | .blank, .template _ => .isFalse nofun
termination_by structural first => first

def SourcePart.decEq : (first second : SourcePart) → Decidable (first = second)
  | .code text, .code text' => decidable_of_iff (text = text') (by simp)
  | .template template, .template template' =>
    have := template.decEq template'
    decidable_of_iff (template = template') (by simp)
  | .code _, .template _ | .template _, .code _ => .isFalse nofun
termination_by structural first => first

def decEqHoles : (first second : List Hole) → Decidable (first = second)
  | [], [] => .isTrue rfl
  | hole :: holes, hole' :: holes' =>
    have := hole.decEq hole'
    have := decEqHoles holes holes'
    decidable_of_iff (hole = hole' ∧ holes = holes') (by simp)
  | [], _ :: _ | _ :: _, [] => .isFalse nofun
termination_by structural first => first

def decEqParts : (first second : List SourcePart) → Decidable (first = second)
  | [], [] => .isTrue rfl
  | part :: parts, part' :: parts' =>
    have := part.decEq part'
    have := decEqParts parts parts'
    decidable_of_iff (part = part' ∧ parts = parts') (by simp)
  | [], _ :: _ | _ :: _, [] => .isFalse nofun
termination_by structural first => first

end

instance : DecidableEq Hole := Hole.decEq

/-! ## Symbols -/

/-- What a hole holds: a string literal is a text, anything else an expression. -/
inductive HoleContent where
  | text (text : Text)
  | expression (expression : Expression)

/-- A character of a quasi, or a hole with what was read in it. -/
inductive Symbol where
  | char (c : Char)
  | hole (hole : Hole) (content : Option HoleContent)

def symbolsOf (text : Text) : List Symbol :=
  text.map .char

def interleave : List Text → List Symbol → List Symbol
  | [], holes => holes
  | text :: texts, [] => symbolsOf text ++ interleave texts []
  | text :: texts, hole :: holes => symbolsOf text ++ hole :: interleave texts holes

/-! ## Names and attributes -/

/-- The longest run of characters of a class that a sequence begins with. -/
def readRun (p : Char → Bool) : List Symbol → Text × List Symbol
  | .char c :: symbols =>
    if p c then
      let (run, rest) := readRun p symbols
      (c :: run, rest)
    else ([], .char c :: symbols)
  | symbols => ([], symbols)

/-- A character that a tag name or an attribute name may have. -/
def isNameChar (c : Char) : Bool :=
  !isBlank c && c != '<' && c != '>' && c != '/' && c != '=' && c != '"' && c != '\''

/-- A tag name as it stands in a template. -/
inductive Mark where
  | word (word : Text)
  | hole (hole : Hole)
  deriving DecidableEq

def readName : List Symbol → Option (Mark × TagName × List Symbol)
  | .hole hole (some (.expression expression)) :: symbols =>
    some (.hole hole, .dynamic expression, symbols)
  | symbols =>
    match readRun isNameChar symbols with
    | ([], _) => none
    | (word, rest) => some (.word word, .static word, rest)

/-- An attribute whose name and equals sign have been read. -/
def readValue (name : Text) : List Symbol → Option (Attribute × List Symbol)
  | .hole _ (some (.text text)) :: symbols => some (.string name text '"', symbols)
  | .hole _ (some (.expression expression)) :: symbols =>
    some (.expression name (some expression) {}, symbols)
  | .char quote :: symbols =>
    if quote = '"' ∨ quote = '\'' then
      match readRun (· != quote) symbols with
      | (text, .char _ :: rest) => some (.string name text '"', rest)
      | _ => none
    else none
  | _ => none

/-- An attribute, the space before it read already. -/
def readAttribute : List Symbol → Option (Attribute × List Symbol)
  | .char '.' :: .char '.' :: .char '.' :: .hole _ (some (.expression expression)) :: symbols =>
    some (.spread expression, symbols)
  | symbols =>
    match readRun isNameChar symbols with
    | ([], _) => none
    | (name, .char '=' :: rest) => readValue name rest
    | (name, rest) => some (.flag name, rest)

def readAttributes : Nat → List Symbol → Option (List Attribute × List Symbol)
  | 0, _ => none
  | fuel + 1, .char ' ' :: symbols => do
    let (first, symbols) ← readAttribute symbols
    let (others, symbols) ← readAttributes fuel symbols
    some (first :: others, symbols)
  | _ + 1, symbols => some ([], symbols)

/-! ## Content -/

/-- The closing tag of the element with this name. -/
def readClosing (mark : Mark) : List Symbol → Option (List Symbol)
  | .char '<' :: .char '/' :: symbols =>
    match readName symbols with
    | some (closing, _, .char '>' :: rest) => if closing = mark then some rest else none
    | _ => none
  | _ => none

mutual

/-- Content up to a closing tag or the end. -/
def readContent : Nat → List Symbol → Option (List Child × List Symbol)
  | 0, _ => none
  | _ + 1, [] => some ([], [])
  | _ + 1, .char '<' :: .char '/' :: symbols => some ([], .char '<' :: .char '/' :: symbols)
  | fuel + 1, .char '<' :: symbols => do
    let (element, symbols) ← readElement fuel symbols
    let (content, symbols) ← readContent fuel symbols
    some (.element element :: content, symbols)
  | fuel + 1, .char c :: symbols => do
    let (text, symbols) := readRun (· != '<') (.char c :: symbols)
    let (content, symbols) ← readContent fuel symbols
    some (.text text :: content, symbols)
  | fuel + 1, .hole _ (some (.text text)) :: symbols => do
    let (content, symbols) ← readContent fuel symbols
    some (.text text :: content, symbols)
  | fuel + 1, .hole _ (some (.expression expression)) :: symbols => do
    let (content, symbols) ← readContent fuel symbols
    some (.expression expression :: content, symbols)
  | _ + 1, .hole _ none :: _ => none

/-- An element whose `<` has been read. -/
def readElement : Nat → List Symbol → Option (Element × List Symbol)
  | 0, _ => none
  | fuel + 1, symbols => do
    let (mark, name, symbols) ← readName symbols
    let (attributes, symbols) ← readAttributes fuel symbols
    match symbols with
    | .char '/' :: .char '>' :: symbols => some (⟨name, attributes, [], false, {}⟩, symbols)
    | .char '>' :: symbols => do
      let (content, symbols) ← readContent fuel symbols
      let symbols ← readClosing mark symbols
      some (⟨name, attributes, content, false, {}⟩, symbols)
    | _ => none

end

def readMarkup (symbols : List Symbol) : Option (List Child) :=
  match readContent (symbols.length + 1) symbols with
  | some (content, []) => some content
  | _ => none

/-! ## Templates -/

mutual

/-- The content that a template writes. -/
def Template.read : Template → Option (List Child)
  | ⟨_, quasis, holes⟩ => readMarkup (interleave (quasis.map unescape) (holeSymbols holes))

def Hole.read : Hole → Option HoleContent
  | .source parts => do
    let parts ← readSourceParts parts
    some (.expression ⟨parts, {}⟩)
  | .literal text => some (.text text)
  | .template template => do
    let content ← template.read
    some (.expression ⟨[.tree (.fragment content {})], {}⟩)
  | .blank => none

def holeSymbols : List Hole → List Symbol
  | [] => []
  | hole :: holes => .hole hole hole.read :: holeSymbols holes

def readSourceParts : List SourcePart → Option (List Part)
  | [] => some []
  | .code text :: parts => do
    let others ← readSourceParts parts
    some (.code text :: others)
  | .template template :: parts => do
    let content ← template.read
    let others ← readSourceParts parts
    some (.tree (.fragment content {}) :: others)

end

end TaggedMarkup
