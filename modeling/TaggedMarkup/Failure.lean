import TaggedMarkup.Diagnostic
import TaggedMarkup.Reference.Basic
import TaggedMarkup.Template.Basic
import TaggedMarkup.Text.Utf8

/-!
# Failures

Everything that can stop the reading or compiling of a program: a diagnostic about the program, or
data no program gives rise to.
-/

namespace TaggedMarkup

inductive BlankPlace where
  | tree
  | name
  | attr
  | child
  | hole
  deriving DecidableEq, Repr

def BlankPlace.message : BlankPlace → String
  | .tree => "Not an element tree: None"
  | .name => "Unknown tag name: None"
  | .attr => "Unknown attribute node: None"
  | .child => "Unknown child node: None"
  | .hole => "Unknown hole expression: None"

inductive Failure where
  | reported (diagnostic : Diagnostic)
  | tooManyDigits (error : Reference.TooManyDigits)
  | blank (place : BlankPlace)
  | miscounted (error : Template.Miscount)
  | notTree (kind : String)
  /-- A node lacks a part that its kind always has. -/
  | missingPart
  /-- A node does not begin and end between two characters. -/
  | undecodable (error : Utf8.Error)
  deriving DecidableEq, Repr

namespace Failure

def inFile (file : Text) : Failure → Failure
  | .reported diagnostic => .reported (diagnostic.inFile file)
  | failure => failure

def message : Failure → String
  | .reported diagnostic => diagnostic.render
  | .tooManyDigits error => error.message
  | .blank place => place.message
  | .miscounted error => error.message
  | .notTree kind => s!"Node {kind} is not an element tree"
  | .missingPart => "list index out of range"
  | .undecodable error => error.message

end Failure

theorem exists_of_bind_eq_ok {ε α β : Type} {x : Except ε α} {f : α → Except ε β} {result : β}
    (h : (x >>= f) = .ok result) : ∃ value, x = .ok value ∧ f value = .ok result := by
  cases x with
  | error failure => cases h
  | ok value => exact ⟨value, rfl, h⟩

theorem exists_ok_of_isOk {ε α : Type} {outcome : Except ε α} (h : outcome.isOk = true) :
    ∃ value, outcome = .ok value := by
  cases outcome with
  | ok value => exact ⟨value, rfl⟩
  | error error => cases h

end TaggedMarkup
