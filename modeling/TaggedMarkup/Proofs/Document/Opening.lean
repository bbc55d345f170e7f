import Mathlib.Logic.Function.Iterate
import TaggedMarkup.Document

/-!
# The first fault of a program

A program is opened by going through its nodes with a stack.  What is still to
come is the nodes on the stack, each with all nodes in it, from the top on; a
turn of the loop takes off the first of these and leaves the others as they
are.  So the nodes are visited in preorder, whatever is done with them, and the
fault that is reported is the first in this order.
-/

namespace TaggedMarkup

namespace Node

/-! ## Preorder -/

mutual

/-- The nodes of a tree, each before the nodes in it. -/
def preorder : Node → List Node
  | node@⟨_, _, _, _, _, _, children⟩ => node :: preorderIn children

def preorderIn : List Node → List Node
  | [] => []
  | node :: nodes => preorder node ++ preorderIn nodes

end

theorem preorder_eq (node : Node) : node.preorder = node :: preorderIn node.children := by
  cases node
  rw [preorder]

theorem preorderIn_append (first second : List Node) :
    preorderIn (first ++ second) = preorderIn first ++ preorderIn second := by
  induction first with
  | nil => rfl
  | cons node first ih => rw [List.cons_append, preorderIn, preorderIn, ih, List.append_assoc]

theorem preorderIn_singleton (node : Node) : preorderIn [node] = node.preorder := by
  rw [preorderIn, preorderIn, List.append_nil]

mutual

theorem firstFault?_eq : ∀ node : Node, node.firstFault? = node.preorder.find? isFault
  | ⟨kind, start, stop, named, field, missing, children⟩ => by
    rw [firstFault?, preorder, List.find?_cons, firstFaultIn?_eq children]
    split
    · rename_i hfault
      rw [hfault]
    · rename_i hfault
      rw [Bool.not_eq_true] at hfault
      rw [hfault]

theorem firstFaultIn?_eq :
    ∀ nodes : List Node, firstFaultIn? nodes = (preorderIn nodes).find? isFault
  | [] => rfl
  | node :: nodes => by
    rw [firstFaultIn?, preorderIn, List.find?_append, firstFault?_eq node,
      firstFaultIn?_eq nodes]

end

/-! ## Going through a stack -/

/-- A turn takes off the first of the nodes to come. -/
theorem preorderIn_cons_eq_turn (node : Node) (stack : List Node) :
    preorderIn (node :: stack) = node :: preorderIn (turn (node :: stack)) := by
  rw [preorderIn, preorder_eq, turn, push_eq, preorderIn_append, List.cons_append]

theorem visitAll_eq_forM {m : Type → Type} [Monad m] (visit : Node → m Unit)
    (stack : List Node) : visitAll visit stack = (preorderIn stack).forM visit := by
  fun_induction visitAll visit stack with
  | case1 => rfl
  | case2 node below ih =>
      rw [ih, preorderIn_cons_eq_turn]
      rfl

theorem head?_iterate_turn (turns : Nat) (stack : List Node) :
    (turn^[turns] stack).head? = (preorderIn stack)[turns]? := by
  induction turns generalizing stack with
  | zero =>
      cases stack with
      | nil => rfl
      | cons node stack => rw [preorderIn_cons_eq_turn]; rfl
  | succ turns ih =>
      rw [Function.iterate_succ_apply, ih]
      cases stack with
      | nil => rfl
      | cons node stack => rw [preorderIn_cons_eq_turn, List.getElem?_cons_succ]

end Node

namespace Document

/-! ## Opening -/

/-- What is said of a program that cannot be read, with a fault or without one. -/
def refusal (source : Source) : Option Node → Failure
  | some fault => source.report .unreadable fault.start
  | none => .reported { problem := .unreadable, file := source.file }

theorem forM_refuseFault (source : Source) (nodes : List Node) :
    nodes.forM (refuseFault source) =
      (nodes.find? Node.isFault).elim (.ok ()) fun fault =>
        .error (source.report .unreadable fault.start) := by
  induction nodes with
  | nil => rfl
  | cons node nodes ih =>
      change (refuseFault source node >>= fun _ => nodes.forM (refuseFault source)) = _
      rw [List.find?_cons, refuseFault, ih]
      cases node.isFault <;> rfl

theorem open?_eq (source : Source) (tree : SyntaxTree) :
    open? source tree =
      if tree.hasFault then .error (refusal source (tree.root.preorder.find? Node.isFault))
      else .ok { source, tree } := by
  rw [open?, Node.visitAll_eq_forM, Node.preorderIn_singleton, forM_refuseFault]
  cases tree.root.preorder.find? Node.isFault <;> rfl

/-- A program is opened exactly if it is marked as without fault.  Otherwise the place of its first
faulty node in preorder is reported, and no place exactly if there is no such node.  The loop that
looks for it goes through all nodes in preorder, one in each turn. -/
theorem opening_reports_first_fault (source : Source) (tree : SyntaxTree) :
    (∀ document, open? source tree = .ok document ↔
      tree.hasFault = false ∧ document = { source, tree }) ∧
    (tree.hasFault = true →
      (∀ before fault after, tree.root.preorder = before ++ fault :: after →
        (∀ node ∈ before, node.isFault = false) → fault.isFault = true →
        open? source tree = .error (source.report .unreadable fault.start)) ∧
      (open? source tree = .error (.reported { problem := .unreadable, file := source.file }) ↔
        ∀ node ∈ tree.root.preorder, node.isFault = false)) ∧
    (∀ root, ({ root } : SyntaxTree).hasFault = true ↔
      ∃ node ∈ root.preorder, node.isFault = true) ∧
    (∀ (m : Type → Type) [Monad m] (visit : Node → m Unit),
      Node.visitAll visit [tree.root] = tree.root.preorder.forM visit) ∧
    ∀ turns, (Node.turn^[turns] [tree.root]).head? = tree.root.preorder[turns]? := by
  refine ⟨?_, ?_, ?_, ?_, ?_⟩
  · intro document
    rw [open?_eq]
    cases tree.hasFault <;> simp [eq_comm]
  · intro hfault
    rw [open?_eq, if_pos hfault]
    constructor
    · intro before fault after hsplit hbefore hfirst
      have hfind : tree.root.preorder.find? Node.isFault = some fault :=
        List.find?_eq_some_iff_append.mpr ⟨hfirst, before, after, hsplit, by simpa using hbefore⟩
      rw [hfind]
      rfl
    · cases hfind : tree.root.preorder.find? Node.isFault with
      | none => simpa [refusal] using hfind
      | some fault =>
          have hfirst := List.find?_some hfind
          have hmem := List.mem_of_find?_eq_some hfind
          simp only [refusal, Source.report, Diagnostic.located, Except.error.injEq,
            Failure.reported.injEq, Diagnostic.mk.injEq, reduceCtorEq, and_false, false_iff]
          intro hnone
          rw [hnone fault hmem] at hfirst
          cases hfirst
  · intro root
    change root.firstFault?.isSome = true ↔ _
    rw [Node.firstFault?_eq, List.find?_isSome]
  · intro m _ visit
    rw [Node.visitAll_eq_forM, Node.preorderIn_singleton]
  · intro turns
    rw [Node.head?_iterate_turn, Node.preorderIn_singleton]

/-- A program whose first faulty node is missing inside an element that stands before a node that
cannot be read; both are on its second line. -/
def twiceFaultyTree : SyntaxTree where
  root := {
    kind := .program
    start := 0
    stop := 8
    children := [
      { kind := .other "identifier", start := 0, stop := 1 },
      { kind := .element, start := 2, stop := 4, children := [
        { kind := .other "<", start := 2, stop := 3, named := false },
        { kind := .other ">", start := 4, stop := 4, named := false, missing := true }] },
      { kind := .fault, start := 5, stop := 8 }] }

def twiceFaultySource : Source :=
  ⟨Utf8.encode ['x', '\n', '<', 'a', ' ', '@', '@', '@'], ['f']⟩

theorem twiceFaulty_reported :
    open? twiceFaultySource twiceFaultyTree =
      .error (.reported ⟨.unreadable, ['f'], some 2, some 3⟩) ∧
    (Node.turn^[4] [twiceFaultyTree.root]).head?.map Node.start = some 4 ∧
    open? twiceFaultySource ⟨{ kind := .program, start := 0, stop := 8 }, true⟩ =
      .error (.reported { problem := .unreadable, file := ['f'] }) := by
  obtain ⟨-, hfaulty, -, -, hturns⟩ :=
    opening_reports_first_fault twiceFaultySource twiceFaultyTree
  obtain ⟨-, hbare, -⟩ := opening_reports_first_fault twiceFaultySource
    ⟨{ kind := .program, start := 0, stop := 8 }, true⟩
  refine ⟨?_, ?_, ?_⟩
  · have hfirst := (hfaulty (by decide)).1 (twiceFaultyTree.root.preorder.take 4) _ _ rfl
      (by decide) rfl
    rw [hfirst]
    rfl
  · rw [hturns]
    rfl
  · exact (hbare rfl).2.mpr (by decide)

end Document

end TaggedMarkup
