import TaggedMarkup.Element.Basic
import TaggedMarkup.Element.TextRun
import TaggedMarkup.Reference.Basic

/-!
# The normal form of a tree

What is left of a tree once everything is forgotten that its template does not
show: positions, the quotes of attribute values, whether an element without
content was closed explicitly, and comments.  Texts are collapsed and decoded,
attribute values are decoded, and texts that meet are one text, except that a
text that holds `<` stands by itself.  A fragment is its children.  The trees in
expressions are in normal form too.  What no template can represent has no
normal form.
-/

namespace TaggedMarkup

def decoded? (raw : Text) : Option Text :=
  (Reference.decode raw).toOption

def putText (text : Text) (children : List Child) : List Child :=
  if text.isEmpty then children
  else
    match children with
    | .text next :: others =>
      if text.contains '<' || next.contains '<' then .text text :: .text next :: others
      else .text (text ++ next) :: others
    | children => .text text :: children

mutual

/-- The content of a tree, in normal form. -/
def Tree.normalForm? : Tree → Option (List Child)
  | .element element => do
    let element ← element.normalForm?
    some [.element element]
  | .fragment children _ => normalChildren? children
  | .blank => none

def Element.normalForm? : Element → Option Element
  | ⟨name, attributes, children, _, _⟩ => do
    let name ← name.normalForm?
    let attributes ← normalAttributes? attributes
    let children ← normalChildren? children
    some ⟨name, attributes, children, false, {}⟩

def TagName.normalForm? : TagName → Option TagName
  | .static name => some (.static name)
  | .dynamic expression => do
    let expression ← expression.normalForm?
    some (.dynamic expression)
  | .blank => none

def Attribute.normalForm? : Attribute → Option Attribute
  | .flag name => some (.flag name)
  | .string name value _ => do
    let value ← decoded? value
    some (.string name value '"')
  | .expression _ none _ => none
  | .expression name (some expression) _ => do
    let expression ← expression.normalForm?
    some (.expression name (some expression) {})
  | .spread expression => do
    let expression ← expression.normalForm?
    some (.spread expression)
  | .blank => none

def Expression.normalForm? : Expression → Option Expression
  | ⟨parts, _⟩ => do
    let parts ← normalParts? parts
    some ⟨parts, {}⟩

def normalAttributes? : List Attribute → Option (List Attribute)
  | [] => some []
  | first :: attributes => do
    let first ← first.normalForm?
    let others ← normalAttributes? attributes
    some (first :: others)

def normalChildren? : List Child → Option (List Child)
  | [] => some []
  | .text raw :: children => do
    let text ← decoded? (collapse raw)
    let others ← normalChildren? children
    some (putText text others)
  | .expression expression :: children => do
    let expression ← expression.normalForm?
    let others ← normalChildren? children
    some (.expression expression :: others)
  | .element element :: children => do
    let element ← element.normalForm?
    let others ← normalChildren? children
    some (.element element :: others)
  | .empty :: children => normalChildren? children
  | .spread _ :: _ => none
  | .blank :: _ => none

def normalParts? : List Part → Option (List Part)
  | [] => some []
  | .code text :: parts => do
    let others ← normalParts? parts
    some (.code text :: others)
  | .tree tree :: parts => do
    let content ← tree.normalForm?
    let others ← normalParts? parts
    some (.tree (.fragment content {}) :: others)

end

end TaggedMarkup
