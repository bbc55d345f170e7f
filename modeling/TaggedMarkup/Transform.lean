import TaggedMarkup.Document
import TaggedMarkup.Element.Segments

/-!
# Transformation

Every root of a program is read, compiled and replaced, in order, up to the first that fails. Any
program will do that is a `Host`: one whose roots can be read and replaced. `transformTree` does
this for a program that has been parsed and gives the new text.
-/

namespace TaggedMarkup

structure Replacement (α : Type) where
  root : α
  position : Position
  template : Template

def compileRoot {α : Type} (settings : Settings) (read : α → Except Failure Tree) (root : α) :
    Except Failure (Replacement α) := do
  let tree ← read root
  let template ← compile settings tree
  pure ⟨root, tree.position, template⟩

/-! ## Records -/

inductive Record where
  | compiled (position : Position) (quasis : Nat)
  | finished (file : Text) (templates : Nat)
  deriving DecidableEq, Repr

def Record.render : Record → String
  | .compiled position quasis =>
    s!"DEBUG Compiled tree at {position.line}:{position.column} into {quasis} quasis"
  | .finished file templates =>
    s!"INFO {Diagnostic.fileLabel file}: compiled {templates} template(s)"

def Replacement.record {α : Type} (replacement : Replacement α) : Record :=
  .compiled replacement.position replacement.template.quasis.length

/-! ## Hosts -/

/-- What is needed of a program to transform it: its roots, the tree that a root stands for, and the
program with a template in the place of a root. -/
structure Host (σ α : Type) where
  roots : σ → List α
  read : σ → α → Except Failure Tree
  replace : σ → α → Template → σ

structure Work (σ : Type) where
  program : σ
  records : List Record := []
  count : Nat := 0

namespace Host

variable {σ α : Type} (host : Host σ α)

def apply (work : Work σ) (replacement : Replacement α) : Work σ where
  program := host.replace work.program replacement.root replacement.template
  records := work.records ++ [replacement.record]
  count := work.count + 1

def replaceRoots (settings : Settings) : List α → Work σ → Work σ × Except Failure Nat
  | [], work => (work, .ok work.count)
  | root :: roots, work =>
    match compileRoot settings (host.read work.program) root with
    | .error failure => (work, .error failure)
    | .ok replacement => replaceRoots settings roots (host.apply work replacement)

def transform (settings : Settings) (program : σ) : Work σ × Except Failure Nat :=
  host.replaceRoots settings (host.roots program) { program }

end Host

/-! ## Documents -/

def Document.host : Host Document Cursor :=
  ⟨Document.roots, Document.read, Document.replace⟩

def Document.transform (document : Document) (settings : Settings) :
    Work Document × Except Failure Nat :=
  host.transform settings document

structure Transformed where
  code : Text
  templates : Nat
  records : List Record := []

/-- What is recorded at the end: the number of templates if there is any. -/
def finishingRecords (file : Text) (templates : Nat) : List Record :=
  if templates = 0 then [] else [.finished file templates]

def transformTree (settings : Settings) (source : Source) (tree : SyntaxTree) :
    Except Failure Transformed :=
  match Document.open? source tree with
  | .error failure => .error (failure.inFile source.file)
  | .ok document =>
    let (work, outcome) := document.transform settings
    match outcome with
    | .error failure => .error (failure.inFile source.file)
    | .ok count => do
      let code ← work.program.render
      pure
        { code
          templates := count
          records := work.records ++ finishingRecords source.file count }

end TaggedMarkup
