import TaggedMarkup.Diagnostic

/-!
# Element trees

The markup written in a program: elements and fragments, their attributes and children, and the
expressions in them, which may hold further trees. A node may also be left blank; such a node is of
no known kind, and compiling it fails.
-/

namespace TaggedMarkup

mutual

structure Element where
  name : TagName
  attributes : List Attribute := []
  children : List Child := []
  explicitClose : Bool := false
  position : Position := {}

inductive Tree where
  | element (element : Element)
  | fragment (children : List Child) (position : Position)
  | blank

inductive TagName where
  /-- A name of the markup vocabulary. -/
  | static (name : Text)
  /-- A reference to something in scope. -/
  | dynamic (expression : Expression)
  | blank

inductive Attribute where
  | flag (name : Text)
  /-- `name="value"`, the value with its character references as written. -/
  | string (name value : Text) (quote : Char)
  /-- An attribute whose value is an expression; none between empty braces. -/
  | expression (name : Text) (value : Option Expression) (position : Position)
  | spread (expression : Expression)
  | blank

inductive Child where
  | text (raw : Text)
  | expression (expression : Expression)
  | element (element : Element)
  /-- Braces with nothing but comments between them. -/
  | empty
  | spread (expression : Expression)
  | blank

structure Expression where
  parts : List Part
  position : Position := {}

inductive Part where
  | code (text : Text)
  | tree (tree : Tree)

end

instance : Inhabited Tree := ⟨.blank⟩

instance : Inhabited TagName := ⟨.blank⟩

instance : Inhabited Attribute := ⟨.blank⟩

instance : Inhabited Child := ⟨.blank⟩

instance : Inhabited Expression := ⟨⟨[], {}⟩⟩

instance : Inhabited Element := ⟨⟨.blank, [], [], false, {}⟩⟩

def Tree.position : Tree → Position
  | .element root => root.position
  | .fragment _ place => place
  | .blank => {}

end TaggedMarkup
