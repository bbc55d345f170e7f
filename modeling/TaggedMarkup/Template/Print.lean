import TaggedMarkup.Template.Basic
import TaggedMarkup.Template.Literal

/-!
# Printed templates

A template as program text: the tag, then between backticks the quasis with each hole written
between `$` and braces. A blank hole has no text, so `print?` refuses a template that has one.
-/

namespace TaggedMarkup

mutual

def Template.render : Template → Text
  | ⟨tag, quasis, holes⟩ =>
    tag ++ '\x60' :: quasis.headD [] ++ renderHoles holes quasis.tail ++ ['\x60']

def Hole.render : Hole → Text
  | .source parts => renderParts parts
  | .literal text => stringLiteral text
  | .template template => template.render
  | .blank => []

def SourcePart.render : SourcePart → Text
  | .code text => text
  | .template template => template.render

/-- Each hole between braces, followed by the quasi after it. -/
def renderHoles : List Hole → List Text → Text
  | hole :: holes, quasi :: quasis =>
    '$' :: '\x7b' :: hole.render ++ '\x7d' :: quasi ++ renderHoles holes quasis
  | _, _ => []

def renderParts : List SourcePart → Text
  | [] => []
  | part :: parts => part.render ++ renderParts parts

end

def Template.print? (template : Template) : Option Text :=
  if template.isComplete then some template.render else none

def Hole.print? (hole : Hole) : Option Text :=
  if hole.isComplete then some hole.render else none

end TaggedMarkup
