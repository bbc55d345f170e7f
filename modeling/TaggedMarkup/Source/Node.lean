/-!
# Syntax trees

A program as a tree of nodes, each with its kind and the bytes it covers. The kinds that markup is
made of have constructors; every other kind is known by its name. A tree may be faulty: it then
holds a node of kind `fault`, or one that is missing from the program.
-/

namespace TaggedMarkup

inductive Kind where
  | program
  | element
  | selfClosing
  | opening
  | closing
  | attr
  | container
  | spread
  | string
  | comment
  | parenthesized
  | returnWord
  | yieldWord
  | throwWord
  | fault
  | other (name : String)
  deriving DecidableEq, Repr, Inhabited

namespace Kind

def name : Kind → String
  | .program => "program"
  | .element => "jsx_element"
  | .selfClosing => "jsx_self_closing_element"
  | .opening => "jsx_opening_element"
  | .closing => "jsx_closing_element"
  | .attr => "jsx_attribute"
  | .container => "jsx_expression"
  | .spread => "spread_element"
  | .string => "string"
  | .comment => "comment"
  | .parenthesized => "parenthesized_expression"
  | .returnWord => "return"
  | .yieldWord => "yield"
  | .throwWord => "throw"
  | .fault => "ERROR"
  | .other label => label

def ofName : String → Kind
  | "program" => .program
  | "jsx_element" => .element
  | "jsx_self_closing_element" => .selfClosing
  | "jsx_opening_element" => .opening
  | "jsx_closing_element" => .closing
  | "jsx_attribute" => .attr
  | "jsx_expression" => .container
  | "spread_element" => .spread
  | "string" => .string
  | "comment" => .comment
  | "parenthesized_expression" => .parenthesized
  | "return" => .returnWord
  | "yield" => .yieldWord
  | "throw" => .throwWord
  | "ERROR" => .fault
  | label => .other label

def isElement : Kind → Bool
  | .element | .selfClosing => true
  | _ => false

/-- A line break after such a node must stay: a comment may run to the end of its line, and after
these words a line break ends the statement. -/
def keepsLineBreak : Kind → Bool
  | .comment | .returnWord | .yieldWord | .throwWord => true
  | _ => false

end Kind

inductive Field where
  | openTag
  | closeTag
  | name
  | other (name : String)
  deriving DecidableEq, Repr

def Field.ofName : String → Field
  | "open_tag" => .openTag
  | "close_tag" => .closeTag
  | "name" => .name
  | label => .other label

structure Node where
  kind : Kind
  start : Nat
  stop : Nat
  /-- Stands for a construct, not for a token of fixed text. -/
  named : Bool := true
  field : Option Field := none
  /-- Not in the program, though it should be. -/
  missing : Bool := false
  children : List Node := []
  deriving Inhabited

namespace Node

def isContent (node : Node) : Bool :=
  node.named && node.kind != .comment

def isFault (node : Node) : Bool :=
  node.kind == .fault || node.missing

mutual

def firstFault? : Node → Option Node
  | node@⟨_, _, _, _, _, _, children⟩ =>
    if node.isFault then some node else firstFaultIn? children

def firstFaultIn? : List Node → Option Node
  | [] => none
  | node :: nodes => (firstFault? node).or (firstFaultIn? nodes)

end

/-! ## Size -/

mutual

def size : Node → Nat
  | ⟨_, _, _, _, _, _, children⟩ => 1 + sizeAll children

def sizeAll : List Node → Nat
  | [] => 0
  | node :: nodes => node.size + sizeAll nodes

end

theorem size_eq (node : Node) : node.size = 1 + sizeAll node.children := by
  cases node
  simp [size]

theorem size_pos (node : Node) : 0 < node.size := by
  rw [size_eq]
  omega

theorem sizeAll_append (first second : List Node) :
    sizeAll (first ++ second) = sizeAll first + sizeAll second := by
  induction first with
  | nil => simp [sizeAll]
  | cons node first ih => simp [sizeAll, ih, Nat.add_assoc]

/-! ## Walking -/

/-- Puts nodes on a stack, the last of them first, so that the first is on top. -/
def push (nodes stack : List Node) : List Node :=
  nodes.reverse.foldl (fun stack node => node :: stack) stack

theorem push_eq (nodes stack : List Node) : push nodes stack = nodes ++ stack := by
  simp [push]

def turn : List Node → List Node
  | [] => []
  | node :: stack => push node.children stack

theorem sizeAll_turn (node : Node) (stack : List Node) :
    sizeAll (turn (node :: stack)) + 1 = sizeAll (node :: stack) := by
  rw [turn, push_eq, sizeAll_append, sizeAll, size_eq]
  omega

def visitAll {m : Type → Type} [Monad m] (visit : Node → m Unit) (stack : List Node) : m Unit :=
  match stack with
  | [] => pure ()
  | node :: below => do
    visit node
    visitAll visit (turn (node :: below))
termination_by sizeAll stack
decreasing_by
  have := sizeAll_turn node below
  omega

end Node

structure SyntaxTree where
  root : Node
  hasFault : Bool := root.firstFault?.isSome

end TaggedMarkup
