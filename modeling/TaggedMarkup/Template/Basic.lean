import TaggedMarkup.Text.Basic

/-!
# Tagged templates

A tagged template is a tag, literal parts called quasis, and between each two of them a hole that
holds an expression. `Template.make?` builds one and checks that it has one more quasi than holes.
-/

namespace TaggedMarkup

mutual

/-- A tag, the literal parts as written between the backticks, and the holes between them. -/
structure Template where
  tag : Text
  quasis : List Text
  holes : List Hole

inductive Hole where
  | source (parts : List SourcePart)
  | literal (text : Text)
  | template (template : Template)
  /-- A hole left blank, which cannot be printed. -/
  | blank

inductive SourcePart where
  | code (text : Text)
  | template (template : Template)

end

instance : Inhabited Template := ⟨⟨[], [], []⟩⟩

instance : Inhabited Hole := ⟨.blank⟩

namespace Template

structure Miscount where
  holes : Nat
  quasis : Nat
  deriving DecidableEq, Repr

def Miscount.message (error : Miscount) : String :=
  s!"Tagged template needs {error.holes + 1} quasis, got {error.quasis}"

def make? (tag : Text) (quasis : List Text) (holes : List Hole) : Except Miscount Template :=
  if quasis.length = holes.length + 1 then .ok ⟨tag, quasis, holes⟩
  else .error ⟨holes.length, quasis.length⟩

end Template

/-! ## Blank holes -/

mutual

def Template.isComplete : Template → Bool
  | ⟨_, _, holes⟩ => holesComplete holes

def Hole.isComplete : Hole → Bool
  | .source parts => partsComplete parts
  | .literal _ => true
  | .template template => template.isComplete
  | .blank => false

def SourcePart.isComplete : SourcePart → Bool
  | .code _ => true
  | .template template => template.isComplete

def holesComplete : List Hole → Bool
  | [] => true
  | hole :: holes => hole.isComplete && holesComplete holes

def partsComplete : List SourcePart → Bool
  | [] => true
  | part :: parts => part.isComplete && partsComplete parts

end

end TaggedMarkup
