import Mathlib.Data.List.Basic
import TaggedMarkup.Proofs.Document.Layout

/-!
# Heads of statements

After words such as `if` and `while` a statement has a head between
parentheses, which belong to the statement.  The head is a node like any other
code between parentheses, and where there is only a tree in it, the search takes
the whole head for the tree.  The template then stands in the place of the
parentheses too, in a program as well as in the code of an expression.
-/

namespace TaggedMarkup

/-- The statements that have a head between parentheses. -/
def Kind.hasHead : Kind → Bool
  | .other name => name ∈ ["if_statement", "while_statement", "do_statement", "switch_statement",
      "with_statement"]
  | _ => false

/-- A statement with a head that the search comes to; among the nodes of such a statement only the
head is code between parentheses. -/
structure StatementHead (top : Cursor) where
  statement : Cursor
  head : Cursor
  visits : top.Visits statement
  hasHead : statement.node.kind.hasHead = true
  mem_children : head ∈ statement.children
  parenthesized : head.node.kind = .parenthesized

section Heads

variable {source : Source} {settings : Settings} {unwrap : Bool → Bool → Text → Text}
  {stop start : Nat} {top : Cursor} {text : Text}

theorem StatementHead.visits_head (site : StatementHead top) : top.Visits site.head := by
  obtain ⟨⟨⟨kind, low, high, named, field, missing, children⟩, before⟩, head, hvisits, hhead, hmem,
    hkind⟩ := site
  have hopens : Cursor.element? ⟨⟨kind, low, high, named, field, missing, children⟩, before⟩ =
      none := by
    cases kind with
    | other name => simp [Cursor.element?, Node.element?, Kind.isElement]
    | _ => simp [Kind.hasHead] at hhead
  exact hvisits.trans (.child hopens hmem (.self _))

/-- In the place of a head, the new code has the template of the head and, around it, `opening` and
`closing`: before them is what the code before the head becomes, and after them what the code after
the head becomes. -/
def StatementHead.PrintedBetween (site : StatementHead top) (source : Source)
    (settings : Settings) (unwrap : Bool → Bool → Text → Text) (stop start : Nat)
    (text opening closing : Text) : Prop :=
  ∃ earlier later before template after,
    top.trees = earlier ++ site.head :: later ∧
    source.Becomes settings unwrap site.head.mayUnwrap site.head.node.start start false earlier
      before ∧
    source.CompilesTo settings site.head template ∧
    source.Becomes settings unwrap false stop site.head.node.stop true later after ∧
    text = before ++ opening ++ template.render ++ closing ++ after

/-- The template of every head that is a tree stands between parentheses. -/
def HeadsKeepParentheses (top : Cursor) (source : Source) (settings : Settings)
    (unwrap : Bool → Bool → Text → Text) (stop start : Nat) (text : Text) : Prop :=
  ∀ site : StatementHead top, site.head.element?.isSome = true →
    ∃ opened closed, site.PrintedBetween source settings unwrap stop start text ('(' :: opened)
      (closed ++ [')'])

theorem StatementHead.trees_eq (site : StatementHead top) (hformed : top.node.WellFormed)
    (htree : site.head.element?.isSome = true) :
    ∃ earlier later, top.trees = earlier ++ site.head :: later := by
  obtain ⟨-, -, -, earlier, later, htrees, -⟩ := site.visits_head.surround hformed
  refine ⟨earlier, later, ?_⟩
  rw [htrees, Cursor.trees_of_isSome htree]
  simp

/-- Nothing is left around the template of a head. -/
theorem StatementHead.eq_nil_of_printedBetween {site : StatementHead top} {opening closing : Text}
    (hbecomes : source.Becomes settings unwrap false stop start false top.trees text)
    (h : site.PrintedBetween source settings unwrap stop start text opening closing) :
    opening = [] ∧ closing = [] := by
  obtain ⟨earlier, later, before, template, after, htrees, hbefore, htemplate, hafter, htext⟩ := h
  rw [htrees] at hbecomes
  obtain ⟨before', template', after', hbefore', htemplate', hafter', htext'⟩ := hbecomes.split
  rw [hbefore'.unique hbefore, htemplate'.unique htemplate, hafter'.unique hafter] at htext'
  have hlength := congrArg List.length (htext.symm.trans htext')
  simp only [List.length_append] at hlength
  exact ⟨List.length_eq_zero_iff.mp (by omega), List.length_eq_zero_iff.mp (by omega)⟩

theorem StatementHead.printedBetween_nil (site : StatementHead top)
    (hformed : top.node.WellFormed) (htree : site.head.element?.isSome = true)
    (hbecomes : source.Becomes settings unwrap false stop start false top.trees text) :
    site.PrintedBetween source settings unwrap stop start text [] [] := by
  obtain ⟨earlier, later, htrees⟩ := site.trees_eq hformed htree
  rw [htrees] at hbecomes
  obtain ⟨before, template, after, hbefore, htemplate, hafter, htext⟩ := hbecomes.split
  refine ⟨earlier, later, before, template, after, htrees, hbefore, htemplate, hafter, ?_⟩
  simpa using htext

theorem headsKeepParentheses_iff
    (hbecomes : source.Becomes settings unwrap false stop start false top.trees text) :
    HeadsKeepParentheses top source settings unwrap stop start text ↔
      ∀ site : StatementHead top, site.head.element? = none := by
  constructor
  · intro hkeep site
    by_contra hsome
    obtain ⟨opened, closed, hprinted⟩ := hkeep site (Option.isSome_iff_ne_none.mpr hsome)
    exact absurd (site.eq_nil_of_printedBetween hbecomes hprinted).1 (by simp)
  · intro hnone site hsome
    rw [hnone site] at hsome
    cases hsome

end Heads

/-- The parentheses of heads are kept exactly if no head is a tree.  The template of one that is
stands right between the code before the head and the code after it. -/
theorem parentheses_of_heads_kept_iff (settings : Settings) (code file : Text) (tree : SyntaxTree)
    (result : Transformed) (htree : tree.ParsedFrom code)
    (hresult : transformTree settings (.ofText code file) tree = .ok result) :
    let source := Source.ofText code file
    let top : Cursor := ⟨tree.root, none⟩
    let length := (Utf8.encode code).length
    ((HeadsKeepParentheses top source settings verbatim length 0 result.code ↔
        ∀ site : StatementHead top, site.head.element? = none) ∧
      ∀ site : StatementHead top, site.head.element?.isSome = true →
        site.PrintedBetween source settings verbatim length 0 result.code [] []) ∧
    ∀ (expression : Cursor) (read : Expression) (hole : Hole), expression.node.WellFormed →
      source.readExpression expression = .ok read → compileExpression settings read = .ok hole →
      (HeadsKeepParentheses expression source settings unwrapGap expression.node.stop
          expression.node.start hole.render ↔
        ∀ site : StatementHead expression, site.head.element? = none) ∧
      ∀ site : StatementHead expression, site.head.element?.isSome = true →
        site.PrintedBetween source settings unwrapGap expression.node.stop expression.node.start
          hole.render [] [] := by
  intro source top length
  have hprogram := becomes_of_transformTree htree hresult
  refine ⟨⟨headsKeepParentheses_iff hprogram, ?_⟩, ?_⟩
  · intro site hsome
    exact site.printedBetween_nil htree.nested hsome hprogram
  · intro expression read hole hformed hread hcompile
    have hexpression := becomes_of_compileExpression hread hcompile
    refine ⟨headsKeepParentheses_iff hexpression, ?_⟩
    intro site hsome
    exact site.printedBetween_nil hformed hsome hexpression

/-! ## Two programs -/

def conditionCode : Text :=
  "if (<a/>) x".toList

def conditionTree : SyntaxTree where
  root := {
    kind := .program
    start := 0
    stop := 11
    children := [
      { kind := .other "if_statement", start := 0, stop := 11, children := [
        tokenNode "if" 0 2, parenthesizedNode 3 9 (tagNode 4 6),
        statementNode 10 11 [nameNode 10 11]] }] }

/-- The condition of this program has no parentheses any more. -/
theorem condition_loses_parentheses :
    (transformTree {} (.ofText conditionCode []) conditionTree).map Transformed.code =
      .ok "if html\x60<a/>\x60 x".toList := by
  decide +kernel

/-- A program whose condition is a tree, with a loop in it whose condition is one too. -/
def loopCode : Text :=
  "if (<a>\x7b() => \x7bwhile (<b/>) c\x7d\x7d</a>) x".toList

def loopStatement : Node where
  kind := .other "while_statement"
  start := 15
  stop := 29
  children := [tokenNode "while" 15 20, parenthesizedNode 21 27 (tagNode 22 24),
    statementNode 28 29 [nameNode 28 29]]

def loopArrow : Node :=
  arrowNode 8 (blockNode 14 30 [loopStatement])

def loopElement : Node :=
  elementNode 4 35 (bracesNode 7 31 loopArrow)

def branchStatement : Node where
  kind := .other "if_statement"
  start := 0
  stop := 38
  children := [tokenNode "if" 0 2, parenthesizedNode 3 36 loopElement,
    statementNode 37 38 [nameNode 37 38]]

def loopTree : SyntaxTree where
  root := { kind := .program, start := 0, stop := 38, children := [branchStatement] }

def loopCondition : StatementHead ⟨loopTree.root, none⟩ where
  statement := ⟨branchStatement, none⟩
  head := ⟨parenthesizedNode 3 36 loopElement, some (.other "if")⟩
  visits := .child (by decide) List.mem_cons_self (.self _)
  hasHead := by decide
  mem_children := List.mem_cons_of_mem _ List.mem_cons_self
  parenthesized := rfl

def arrowCondition : StatementHead ⟨loopArrow, some (.other "\x7b")⟩ where
  statement := ⟨loopStatement, some (.other "\x7b")⟩
  head := ⟨parenthesizedNode 21 27 (tagNode 22 24), some (.other "while")⟩
  visits := by
    refine .child (by decide)
      (List.mem_cons_of_mem _ (List.mem_cons_of_mem _ List.mem_cons_self)) ?_
    exact .child (by decide) (List.mem_cons_of_mem _ List.mem_cons_self) (.self _)
  hasHead := by decide
  mem_children := List.mem_cons_of_mem _ List.mem_cons_self
  parenthesized := rfl

theorem loop_loses_parentheses :
    ∃ result read hole,
      transformTree {} (.ofText loopCode []) loopTree = .ok result ∧
      (Source.ofText loopCode []).readExpression ⟨loopArrow, some (.other "\x7b")⟩ = .ok read ∧
      compileExpression {} read = .ok hole ∧
      loopCondition.PrintedBetween (.ofText loopCode []) {} verbatim 38 0 result.code [] [] ∧
      arrowCondition.PrintedBetween (.ofText loopCode []) {} unwrapGap 30 8 hole.render [] [] ∧
      ¬ HeadsKeepParentheses ⟨loopTree.root, none⟩ (.ofText loopCode []) {} verbatim 38 0
        result.code := by
  have hresult : ∃ result, transformTree {} (.ofText loopCode []) loopTree = .ok result :=
    exists_ok_of_isOk (by decide +kernel)
  have hcompiled : ∃ hole, ((Source.ofText loopCode []).readExpression
      ⟨loopArrow, some (.other "\x7b")⟩ >>= compileExpression {}) = .ok hole :=
    exists_ok_of_isOk (by decide +kernel)
  have hparsed : loopTree.ParsedFrom loopCode := ⟨by decide, by decide, by decide⟩
  obtain ⟨result, hresult⟩ := hresult
  obtain ⟨hole, hcompiled⟩ := hcompiled
  obtain ⟨read, hread, hhole⟩ := exists_of_bind_eq_ok hcompiled
  obtain ⟨⟨hkeep, hprogram⟩, hexpression⟩ :=
    parentheses_of_heads_kept_iff {} loopCode [] loopTree result hparsed hresult
  refine ⟨result, read, hole, hresult, hread, hhole, hprogram loopCondition (by decide),
    (hexpression _ read hole (by decide) hread hhole).2 arrowCondition (by decide), ?_⟩
  intro hkept
  exact absurd (hkeep.mp hkept loopCondition) (by decide)

end TaggedMarkup
