import TaggedMarkup.Grammar.Statement

/-!
# Programs

`parse` reads a whole program. A text that is no program gives a tree that has a fault and says
nothing about where.
-/

namespace TaggedMarkup.Grammar

open Reader

def rules : Nat → Rules
  | 0 => ⟨failure, failure, failure, failure, failure⟩
  | depth + 1 => {
      expression := fun input => Grammar.expression (rules depth) input
      statement := fun input => Grammar.statement (rules depth) input
      typeTerm := fun input => Grammar.typeTerm (rules depth) input
      element := fun input => Grammar.element (rules depth) input
      pattern := fun input => Grammar.pattern (rules depth) input }

def directiveLine : Reader Unit := do
  if ← isNext "#!" then
    lexeme (.other "hash_bang_line") fun text => some (text.takeWhile (· != '\n')).length

def program (rules : Rules) : Reader Unit := do
  directiveLine
  many rules.statement
  operandTrivia
  ensure (← get).rest.isEmpty

/-- A bound for how deep constructs can be nested in a text: each of the rules takes a character
after at most three others were entered. -/
def depthBound (text : Text) : Nat :=
  4 * text.length + 8

def parse (text : Text) : SyntaxTree :=
  match (program (rules (depthBound text))).run (.ofText text) with
  | some (_, input) =>
    ⟨{ kind := .program, start := 0, stop := input.offset, children := input.nodes.reverse }, false⟩
  | none => ⟨{ kind := .program, start := 0, stop := Input.byteLength text }, true⟩

end TaggedMarkup.Grammar
