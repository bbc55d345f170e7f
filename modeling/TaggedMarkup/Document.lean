import TaggedMarkup.Source.Reading
import TaggedMarkup.Template.Print

/-!
# Documents

A program whose element trees can be replaced by templates. Its roots are the outermost trees. A
replacement is kept as an edit of the bytes that the root covers, so that all other bytes stay as
they are.
-/

namespace TaggedMarkup

/-- The bytes from `start` up to `stop`, and the template to stand in their place. -/
structure Edit where
  start : Nat
  stop : Nat
  template : Template

structure Document where
  source : Source
  tree : SyntaxTree
  edits : List Edit := []

namespace Document

def refuseFault (source : Source) (node : Node) : Except Failure Unit :=
  if node.isFault then .error (source.report .unreadable node.start) else .ok ()

def open? (source : Source) (tree : SyntaxTree) : Except Failure Document :=
  if tree.hasFault then do
    Node.visitAll (refuseFault source) [tree.root]
    -- no node is faulty although the tree is: the place is not known
    .error (.reported { problem := .unreadable, file := source.file })
  else .ok { source, tree }

def roots (document : Document) : List Cursor :=
  document.tree.root.trees none

def read (document : Document) (root : Cursor) : Except Failure Tree :=
  match root.element? with
  | some element => document.source.readElement element
  | none => .error (.notTree root.node.kind.name)

def replace (document : Document) (root : Cursor) (template : Template) : Document :=
  { document with edits := document.edits ++ [⟨root.node.start, root.node.stop, template⟩] }

def splice (source : Source) (start : Nat) : List Edit → Except Failure Text
  | [] => source.slice start source.bytes.length
  | edit :: edits => do
    let before ← source.slice start edit.start
    match edit.template.print? with
    | none => .error (.blank .hole)
    | some printed =>
      let after ← splice source edit.stop edits
      pure (before ++ printed ++ after)

def render (document : Document) : Except Failure Text :=
  -- the sort is stable: of two edits at one place, the earlier comes first
  splice document.source 0 (document.edits.mergeSort fun a b => decide (a.start ≤ b.start))

end Document

end TaggedMarkup
