import Mathlib.Data.List.Basic
import Mathlib.Data.List.TakeWhile
import Mathlib.Tactic.Conv
import TaggedMarkup.Proofs.Source.Expression

/-!
# Line breaks after trees

Where a statement ends in a tree and has no semicolon, the line break after it
ends the statement.  The code after a tree is unwrapped: white space with a line
break in it goes.  So the line break is kept exactly if there is one past the
white space that follows the tree, that is, in or after a comment.
-/

namespace TaggedMarkup

/-! ## Unwrapping -/

/-- What becomes of the blanks at one end of some code: if they may be unwrapped and go over a line
break, nothing or one space is left of them, and otherwise all of them. -/
def Unwraps (may : Prop) (blanks kept : Text) : Prop :=
  (may ∧ breaksLine blanks = true ∧ (kept = [] ∨ kept = [' '])) ∨
    (¬ (may ∧ breaksLine blanks = true) ∧ kept = blanks)

theorem Unwraps.breaksLine_eq {blanks kept : Text} (h : Unwraps True blanks kept) :
    breaksLine kept = false := by
  rcases h with ⟨-, -, rfl | rfl⟩ | ⟨hstays, rfl⟩
  · rfl
  · decide
  · simpa using hstays

theorem Unwraps.blank {may : Prop} {blanks kept : Text} (h : Unwraps may blanks kept)
    (hblanks : ∀ c ∈ blanks, isBlank c = true) : ∀ c ∈ kept, isBlank c = true := by
  rcases h with ⟨-, -, rfl | rfl⟩ | ⟨-, rfl⟩
  · simp
  · intro c hmem
    rw [List.mem_singleton.mp hmem]
    decide
  · exact hblanks

theorem exists_unwrapAfter_eq (text : Text) :
    ∃ kept, unwrapAfter text = kept ++ text.dropWhile isBlank ∧
      Unwraps True (text.takeWhile isBlank) kept := by
  unfold unwrapAfter
  dsimp only
  split
  case isTrue hstays =>
    refine ⟨text.takeWhile isBlank, List.takeWhile_append_dropWhile.symm, .inr ⟨?_, rfl⟩⟩
    simpa using hstays
  case isFalse hbreaks =>
    have hbreaks : breaksLine (text.takeWhile isBlank) = true := by simpa using hbreaks
    split
    case isTrue => exact ⟨[], rfl, .inl ⟨trivial, hbreaks, .inl rfl⟩⟩
    case isFalse => exact ⟨[' '], rfl, .inl ⟨trivial, hbreaks, .inr rfl⟩⟩

theorem exists_unwrapBefore_eq (text : Text) :
    ∃ kept, unwrapBefore text = stripEnd isBlank text ++ kept ∧
      Unwraps True (runAtEnd isBlank text) kept := by
  unfold unwrapBefore
  dsimp only
  split
  case isTrue hstays =>
    refine ⟨runAtEnd isBlank text, (stripEnd_append_runAtEnd isBlank text).symm, .inr ⟨?_, rfl⟩⟩
    simpa using hstays
  case isFalse hbreaks =>
    have hbreaks : breaksLine (runAtEnd isBlank text) = true := by simpa using hbreaks
    split
    case isTrue =>
      exact ⟨[], (List.append_nil _).symm, .inl ⟨trivial, hbreaks, .inl rfl⟩⟩
    case isFalse => exact ⟨[' '], rfl, .inl ⟨trivial, hbreaks, .inr rfl⟩⟩

theorem breaksLine_unwrapBefore (text : Text) :
    breaksLine (unwrapBefore text) = breaksLine (stripEnd isBlank text) := by
  obtain ⟨kept, hbefore, hkept⟩ := exists_unwrapBefore_eq text
  rw [hbefore, breaksLine_append, hkept.breaksLine_eq, Bool.or_false]

theorem stripEnd_append {p : Char → Bool} {first second : Text} (h : ∃ c ∈ second, p c = false) :
    stripEnd p (first ++ second) = first ++ stripEnd p second := by
  obtain ⟨c, hmem, hc⟩ := h
  have hsome : ¬ (second.reverse.dropWhile p).isEmpty := by
    rw [List.isEmpty_iff, List.dropWhile_eq_nil_iff]
    intro hall
    simp [hall c (by simpa using hmem)] at hc
  rw [stripEnd, List.reverse_append, List.dropWhile_append, if_neg hsome, List.reverse_append,
    List.reverse_reverse, stripEnd]

theorem runAtEnd_append {p : Char → Bool} {first second : Text} (h : ∃ c ∈ second, p c = false) :
    runAtEnd p (first ++ second) = runAtEnd p second := by
  have hwhole := stripEnd_append_runAtEnd p (first ++ second)
  rw [stripEnd_append h, List.append_assoc, List.append_right_inj] at hwhole
  conv_rhs at hwhole => rw [← stripEnd_append_runAtEnd p second]
  exact List.append_cancel_left hwhole

theorem unwrapBefore_append {first second : Text} (h : ∃ c ∈ second, isBlank c = false) :
    unwrapBefore (first ++ second) = first ++ unwrapBefore second := by
  have hsome : stripEnd isBlank second ≠ [] := by
    simpa [stripEnd_eq_nil_iff] using h
  unfold unwrapBefore
  dsimp only
  rw [stripEnd_append h, runAtEnd_append h, List.getLast?_append_of_ne_nil _ hsome]
  split
  · rfl
  · split
    · rfl
    · rw [List.append_assoc]

/-- What is left of the code between a tree and a token once the blanks after the tree are gone,
and those before the token if it begins a tree that is unwrapped. -/
def remains (unwraps : Bool) (gap : Text) : Text :=
  if unwraps then stripEnd isBlank (gap.dropWhile isBlank) else gap.dropWhile isBlank

theorem exists_not_blank_of_dropWhile {text : Text} (h : text.dropWhile isBlank ≠ []) :
    ∃ c ∈ text.dropWhile isBlank, isBlank c = false := by
  cases hrest : text.dropWhile isBlank with
  | nil => exact absurd hrest h
  | cons c rest =>
      have := List.head?_dropWhile_not isBlank text
      rw [hrest] at this
      exact ⟨c, List.mem_cons_self, by simpa using this⟩

theorem breaksLine_unwrapGap (unwraps : Bool) (gap : Text) :
    breaksLine (unwrapGap true unwraps gap) = breaksLine (remains unwraps gap) := by
  obtain ⟨blanks, hafter, hblanks⟩ := exists_unwrapAfter_eq gap
  simp only [unwrapGap, remains, if_true, hafter]
  cases unwraps with
  | false => simp [breaksLine_append, hblanks.breaksLine_eq]
  | true =>
      simp only [if_true]
      rw [breaksLine_unwrapBefore]
      by_cases hrest : gap.dropWhile isBlank = []
      · have hnone := stripEnd_eq_nil_iff.mpr (hblanks.blank fun c => List.mem_takeWhile_imp)
        rw [hrest, List.append_nil, hnone]
        rfl
      · rw [stripEnd_append (exists_not_blank_of_dropWhile hrest), breaksLine_append,
          hblanks.breaksLine_eq, Bool.false_or]

theorem unwrapAfter_append (gap tail : Text) {c : Char} (hc : isBlank c = false) :
    ∃ kept, unwrapAfter (gap ++ c :: tail) = kept ++ c :: tail ∧
      breaksLine kept = breaksLine (gap.dropWhile isBlank) := by
  obtain ⟨blanks, hafter, hblanks⟩ := exists_unwrapAfter_eq (gap ++ c :: tail)
  have hdrop : (gap ++ c :: tail).dropWhile isBlank = gap.dropWhile isBlank ++ c :: tail := by
    rw [List.dropWhile_append]
    split
    case isTrue hempty =>
      rw [List.isEmpty_iff.mp hempty, List.dropWhile_cons_of_neg (by simp [hc])]
      rfl
    case isFalse => rfl
  refine ⟨blanks ++ gap.dropWhile isBlank, ?_, ?_⟩
  · rw [hafter, hdrop, List.append_assoc]
  · rw [breaksLine_append, hblanks.breaksLine_eq, Bool.false_or]

/-- The code after a tree up to a token keeps a line break exactly if one remains in it, and the
code from the token on is not touched there. -/
theorem unwrapGap_append (unwraps : Bool) (gap tail : Text)
    (htail : ∀ c, tail.head? = some c → isBlank c = false) :
    ∃ kept, unwrapGap true unwraps (gap ++ tail) = kept ++ unwrapGap false unwraps tail ∧
      breaksLine kept = breaksLine (remains (unwraps && tail.isEmpty) gap) := by
  cases tail with
  | nil =>
      refine ⟨unwrapGap true unwraps gap, ?_, ?_⟩
      · cases unwraps <;> simp [unwrapGap, unwrapBefore, runAtEnd, breaksLine]
      · rw [breaksLine_unwrapGap]
        simp
  | cons c tail =>
      have hc := htail c rfl
      obtain ⟨kept, hafter, hkept⟩ := unwrapAfter_append gap tail hc
      refine ⟨kept, ?_, by simpa [remains] using hkept⟩
      simp only [unwrapGap, if_true, hafter]
      cases unwraps with
      | false => rfl
      | true => exact unwrapBefore_append ⟨c, List.mem_cons_self, hc⟩

/-! ## Ends of statements -/

/-- A statement or a declaration, by the name of its kind. -/
def Kind.isStatement (kind : Kind) : Bool :=
  "_statement".toList.isSuffixOf kind.name.toList ||
    "_declaration".toList.isSuffixOf kind.name.toList

/-- A statement in an expression that ends in a tree and has no semicolon, with what follows it:
the next statement or a word such as `else`, perhaps after comments. -/
structure StatementEnd (expression : Cursor) where
  parent : Cursor
  left : List Node
  statement : Node
  comments : List Node
  follower : Node
  right : List Node
  span : Cursor
  visits : expression.Visits parent
  opens : parent.element? = none
  children_eq : parent.node.children = left ++ statement :: (comments ++ follower :: right)
  isStatement : statement.kind.isStatement = true
  unterminated : ∀ child ∈ statement.children, child.kind ≠ .other ";"
  areComments : ∀ comment ∈ comments, comment.kind = .comment ∧ comment.children = []
  last : (statement.trees (contextAfter parent.before left)).getLast? = some span
  ends : span.node.stop = statement.stop

theorem Cursor.Visits.all {p : Node → Prop} {top cursor : Cursor} (h : top.Visits cursor)
    (hall : top.node.All p) : cursor.node.All p := by
  induction h with
  | self => exact hall
  | child hopens hmem _ ih =>
      obtain ⟨left, right, hchildren, -⟩ := mem_siblings hmem
      refine ih (allIn_iff.mp (Node.all_iff.mp hall).2 _ ?_)
      simp [hchildren]

theorem treesIn_comments (before : Option Kind) {comments : List Node}
    (h : ∀ comment ∈ comments, comment.kind = .comment ∧ comment.children = []) :
    treesIn before comments = [] := by
  induction comments generalizing before with
  | nil => rw [treesIn]
  | cons comment comments ih =>
      obtain ⟨hkind, hchildren⟩ := h comment List.mem_cons_self
      have hnone : Cursor.element? ⟨comment, before⟩ = none := by
        obtain ⟨kind, start, stop, named, field, missing, children⟩ := comment
        cases hkind
        simp [Cursor.element?, Node.element?, Kind.isElement]
      have hown : comment.trees before = [] := by
        have := Cursor.trees_of_none hnone
        rwa [hchildren, treesIn] at this
      rw [treesIn, hown, ih (some comment.kind) fun other hother =>
        h other (List.mem_cons_of_mem comment hother)]
      rfl

theorem StatementEnd.trees_eq {expression : Cursor} (site : StatementEnd expression)
    (hformed : expression.node.WellFormed) :
    ∃ earlier later, expression.trees = earlier ++ site.span :: later ∧
      ∀ tree ∈ later, site.follower.start ≤ tree.node.start := by
  obtain ⟨hparent, -, -, before, after, htrees, -, hafter⟩ := site.visits.surround hformed
  obtain ⟨init, hinit⟩ := List.getLast?_eq_some_iff.mp site.last
  have hchildren : site.parent.node.children =
      (site.left ++ site.statement :: site.comments) ++ site.follower :: site.right := by
    simp [site.children_eq]
  obtain ⟨hfollower, -, hsize, hstop, -, hright⟩ :=
    treesIn_surround site.parent.before hparent hchildren
  have hown : site.parent.trees = treesIn site.parent.before site.left ++ init ++ site.span ::
      treesIn (contextAfter site.parent.before (site.left ++ site.statement :: site.comments))
        (site.follower :: site.right) := by
    rw [Cursor.trees_of_none site.opens, hchildren, treesIn_append, treesIn_append, treesIn,
      treesIn_comments _ site.areComments, hinit]
    simp
  refine ⟨before ++ (treesIn site.parent.before site.left ++ init),
    treesIn (contextAfter site.parent.before (site.left ++ site.statement :: site.comments))
      (site.follower :: site.right) ++ after, ?_, ?_⟩
  · rw [htrees, hown]
    simp
  · intro tree hmem
    rcases List.mem_append.mp hmem with hmem | hmem
    · rw [treesIn] at hmem
      rcases List.mem_append.mp hmem with hmem | hmem
      · exact ((Node.trees_within _ site.follower hfollower).1 tree hmem).1
      · rw [contextAfter_append] at hright
        exact Nat.le_trans hsize (hright tree hmem)
    · have := hafter tree hmem
      omega

theorem StatementEnd.stop_le {expression : Cursor} (site : StatementEnd expression)
    (hformed : expression.node.WellFormed) :
    site.span.node.stop ≤ site.follower.start ∧ site.follower.start ≤ site.follower.stop ∧
      site.follower.stop ≤ expression.node.stop := by
  obtain ⟨hparent, -, hhigh, -⟩ := site.visits.surround hformed
  obtain ⟨hnests, hall⟩ := Node.all_iff.mp hparent
  have hfollower := allIn_iff.mp hall site.follower (by simp [site.children_eq])
  have hinside := hnests.inside site.follower (by simp [site.children_eq])
  have hapart := hnests.apart
  rw [site.children_eq, List.pairwise_append, List.pairwise_cons] at hapart
  have hnext := hapart.2.1.1 site.follower (by simp)
  have hsize := (Node.all_iff.mp hfollower).1.ordered
  rw [site.ends]
  omega

/-! ## The code after a tree -/

/-- The code after a tree goes up to the next tree or to the end. -/
def gapStop (stop : Nat) : List Cursor → Nat
  | [] => stop
  | cursor :: _ => cursor.node.start

def gapUnwraps : List Cursor → Bool
  | [] => false
  | cursor :: _ => cursor.mayUnwrap

/-- The text of a node begins with a character that is not blank. -/
def Source.BeginsToken (source : Source) (node : Node) : Prop :=
  ∃ c rest, source.textOf node = .ok (c :: rest) ∧ isBlank c = false

theorem Source.Stretch.head {source : Source} {stop start : Nat} {follows : Bool}
    {trees : List Cursor} {parts : List Part}
    (h : source.Stretch unwrapGap false stop start follows trees parts) :
    ∃ text others, source.slice start (gapStop stop trees) = .ok text ∧
      parts = codeParts (unwrapGap follows (gapUnwraps trees) text) ++ others ∧
      ∀ text, others.head? ≠ some (.code text) := by
  cases h with
  | code hslice => exact ⟨_, [], hslice, (List.append_nil _).symm, by simp⟩
  | tree hslice _ _ _ => exact ⟨_, _, hslice, rfl, by simp⟩

/-- What stands from the start of a token on begins as the token does. -/
theorem Source.BeginsToken.head_of_slice {code file : Text} {node : Node} {stop : Nat}
    {tail : Text} (h : (Source.ofText code file).BeginsToken node) (hnode : node.Aligned code)
    (hsize : node.start ≤ node.stop) (hstart : node.start ≤ stop)
    (hstop : Utf8.IsBoundary code stop)
    (htail : (Source.ofText code file).slice node.start stop = .ok tail) :
    ∀ c, tail.head? = some c → isBlank c = false := by
  obtain ⟨c, rest, htext, hc⟩ := h
  rw [Source.textOf] at htext
  rcases Nat.le_total node.stop stop with hle | hle
  · obtain ⟨first, second, hfirst, -, hwhole⟩ :=
      slice_append file hsize hle hnode.1 hnode.2 hstop
    rw [htext, Except.ok.injEq] at hfirst
    rw [htail, Except.ok.injEq, ← hfirst] at hwhole
    simp [hwhole, hc]
  · obtain ⟨first, second, hfirst, -, hwhole⟩ :=
      slice_append file hstart hle hnode.1 hstop hnode.2
    rw [htail, Except.ok.injEq] at hfirst
    rw [htext, Except.ok.injEq, ← hfirst] at hwhole
    cases tail with
    | nil => simp
    | cons d tail =>
        simp only [List.cons_append, List.cons.injEq] at hwhole
        simp [← hwhole.1, hc]

/-- Between a tree that ends a statement and the token after the statement, the code of an
expression keeps a line break exactly if there is one past the white space after the tree. -/
theorem line_break_kept_iff {code file : Text} {expression : Cursor} {result : Expression}
    (site : StatementEnd expression) (hformed : expression.node.WellFormed)
    (haligned : expression.node.All (Node.Aligned code))
    (htoken : (Source.ofText code file).BeginsToken site.follower)
    (hread : (Source.ofText code file).readExpression expression = .ok result) :
    ∃ earlier later front found tree others gap tail kept,
      expression.trees = earlier ++ site.span :: later ∧
      (Source.ofText code file).Stretch unwrapGap site.span.mayUnwrap site.span.node.start
        expression.node.start false earlier front ∧
      site.span.element? = some found ∧
      (Source.ofText code file).readElement found = .ok tree ∧
      (Source.ofText code file).slice site.span.node.stop site.follower.start = .ok gap ∧
      (Source.ofText code file).slice site.follower.start
        (gapStop expression.node.stop later) = .ok tail ∧
      result.parts = front ++ .tree tree ::
        (Source.codeParts (kept ++ unwrapGap false (gapUnwraps later) tail) ++ others) ∧
      (∀ text, others.head? ≠ some (.code text)) ∧
      (breaksLine kept = true ↔
        breaksLine (remains (gapUnwraps later && tail.isEmpty) gap) = true) ∧
      ((∀ c ∈ gap, isBlank c = true) → breaksLine kept = false) := by
  obtain ⟨earlier, later, htrees, hlater⟩ := site.trees_eq hformed
  obtain ⟨hspan, hsize, hhigh⟩ := site.stop_le hformed
  have hstretch := Source.stretch_of_readExpression hread
  rw [htrees] at hstretch
  obtain ⟨front, found, tree, rest, hfront, hfound, htree, hrest, hparts⟩ := hstretch.split
  obtain ⟨text, others, hslice, rfl, hothers⟩ := hrest.head
  have htreeAligned : ∀ tree ∈ expression.trees, tree.node.Aligned code := by
    intro tree hmem
    exact (Node.all_iff.mp (haligned.of_mem_trees expression.before _ tree hmem)).1
  have hfollower : site.follower.Aligned code := by
    have hparent := Node.all_iff.mp (site.visits.all haligned)
    exact (Node.all_iff.mp (allIn_iff.mp hparent.2 site.follower (by simp [site.children_eq]))).1
  have hspanStop : Utf8.IsBoundary code site.span.node.stop :=
    (htreeAligned site.span (by simp [htrees])).2
  have hstop : site.follower.start ≤ gapStop expression.node.stop later ∧
      Utf8.IsBoundary code (gapStop expression.node.stop later) := by
    cases later with
    | nil => exact ⟨Nat.le_trans hsize hhigh, (Node.all_iff.mp haligned).1.2⟩
    | cons next later =>
        exact ⟨hlater next List.mem_cons_self, (htreeAligned next (by simp [htrees])).1⟩
  -- the code up to the next tree is the gap and what begins with the token
  obtain ⟨gap, tail, hgap, htail, hwhole⟩ :=
    slice_append file hspan hstop.1 hspanStop hfollower.1 hstop.2
  rw [hslice, Except.ok.injEq] at hwhole
  obtain ⟨kept, hunwrap, hkept⟩ := unwrapGap_append (gapUnwraps later) gap tail
    (htoken.head_of_slice hfollower hsize hstop.1 hstop.2 htail)
  refine ⟨earlier, later, front, found, tree, others, gap, tail, kept, htrees, hfront, hfound,
    htree, hgap, htail, ?_, hothers, by rw [hkept], ?_⟩
  · rw [hparts, hwhole, hunwrap]
  · intro hblank
    have hnothing : gap.dropWhile isBlank = [] := by
      rw [List.dropWhile_eq_nil_iff]
      exact hblank
    rw [hkept, remains, hnothing]
    split <;> rfl

/-! ## Two arrow functions -/

/-- A program in which a declaration that ends in a tree stands before a statement. -/
def declaredCode : Text :=
  "<a>\x7b() => \x7b\n  const b = <b/>\n  return b\n\x7d\x7d</a>".toList

def declaredStatement : Node where
  kind := .other "lexical_declaration"
  start := 14
  stop := 28
  children := [
    tokenNode "const" 14 19,
    { kind := .other "variable_declarator", start := 20, stop := 28, children := [
      nameNode 20 21, tokenNode "=" 22 23, tagNode 24 26] }]

def declaredBlock : Node :=
  blockNode 10 41 [declaredStatement, returnNode 31 39 (nameNode 38 39)]

def declaredArrow : Node :=
  arrowNode 4 declaredBlock

def declaredEnd : StatementEnd ⟨declaredArrow, some (.other "\x7b")⟩ where
  parent := ⟨declaredBlock, some (.other "=>")⟩
  left := [tokenNode "\x7b" 10 11]
  statement := declaredStatement
  comments := []
  follower := returnNode 31 39 (nameNode 38 39)
  right := [tokenNode "\x7d" 40 41]
  span := ⟨tagNode 24 26, some (.other "=")⟩
  visits := .child (by decide)
    (List.mem_cons_of_mem _ (List.mem_cons_of_mem _ List.mem_cons_self)) (.self _)
  opens := by decide
  children_eq := rfl
  isStatement := by decide
  unterminated := by decide
  areComments := by simp
  last := rfl
  ends := rfl

/-- The line break after the declaration is gone: its code goes on with the next statement. -/
theorem declared_break_lost :
    (Source.ofText declaredCode []).slice declaredEnd.span.node.stop declaredEnd.follower.start =
        .ok "\n  ".toList ∧
      (Source.ofText declaredCode []).readExpression ⟨declaredArrow, some (.other "\x7b")⟩ =
        .ok ⟨[.code "() => \x7b\n  const b = ".toList,
          .tree (.element { name := .static ['b'], position := ⟨2, 13⟩ }),
          .code " return b\n\x7d".toList], ⟨1, 5⟩⟩ := by
  constructor
  · rfl
  · with_unfolding_all rfl

/-- A program in which a comment stands between an assignment of a tree and the next statement. -/
def commentedCode : Text :=
  "<a>\x7b() => \x7bb=<b/>//\nc\x7d\x7d</a>".toList

def commentedStatement : Node :=
  statementNode 11 17 [assignmentNode 11 (tagNode 13 15)]

def commentedBlock : Node :=
  blockNode 10 22 [
    commentedStatement,
    { kind := .comment, start := 17, stop := 19 },
    statementNode 20 21 [nameNode 20 21]]

def commentedArrow : Node :=
  arrowNode 4 commentedBlock

def commentedEnd : StatementEnd ⟨commentedArrow, some (.other "\x7b")⟩ where
  parent := ⟨commentedBlock, some (.other "=>")⟩
  left := [tokenNode "\x7b" 10 11]
  statement := commentedStatement
  comments := [{ kind := .comment, start := 17, stop := 19 }]
  follower := statementNode 20 21 [nameNode 20 21]
  right := [tokenNode "\x7d" 21 22]
  span := ⟨{ tagNode 13 15 with field := some (.other "right") }, some (.other "=")⟩
  visits := .child (by decide)
    (List.mem_cons_of_mem _ (List.mem_cons_of_mem _ List.mem_cons_self)) (.self _)
  opens := by decide
  children_eq := rfl
  isStatement := by decide
  unterminated := by decide
  areComments := by simp
  last := rfl
  ends := rfl

theorem commented_break_kept :
    ∃ result front tree kept rest others,
      (Source.ofText commentedCode []).readExpression ⟨commentedArrow, some (.other "\x7b")⟩ =
        .ok result ∧
      result.parts = front ++ .tree tree ::
        (Source.codeParts (kept ++ 'c' :: rest) ++ others) ∧
      breaksLine kept = true := by
  have hread : ∃ result, (Source.ofText commentedCode []).readExpression
      ⟨commentedArrow, some (.other "\x7b")⟩ = .ok result :=
    ⟨_, by with_unfolding_all rfl⟩
  obtain ⟨result, hread⟩ := hread
  have hformed : commentedArrow.WellFormed := by decide
  have haligned : commentedArrow.All (Node.Aligned commentedCode) := by decide
  have htoken : (Source.ofText commentedCode []).BeginsToken commentedEnd.follower :=
    ⟨'c', [], rfl, by decide⟩
  obtain ⟨earlier, later, front, found, tree, others, gap, tail, kept, htrees, -, -, -, hgap,
    htail, hparts, -, hkept, -⟩ :=
    line_break_kept_iff commentedEnd hformed haligned htoken hread
  have hsingle : Cursor.trees ⟨commentedArrow, some (.other "\x7b")⟩ = [commentedEnd.span] := by
    rfl
  have hlast : later = [] := by
    have hlength := congrArg List.length htrees
    simp only [hsingle, List.length_append, List.length_cons, List.length_nil] at hlength
    exact List.length_eq_zero_iff.mp (by omega)
  subst hlast
  have hgap' : (Source.ofText commentedCode []).slice commentedEnd.span.node.stop
      commentedEnd.follower.start = .ok ['/', '/', '\n'] := rfl
  have htail' : (Source.ofText commentedCode []).slice commentedEnd.follower.start
      (gapStop 22 []) = .ok ['c', '\x7d'] := rfl
  rw [hgap', Except.ok.injEq] at hgap
  rw [show gapStop commentedArrow.stop [] = gapStop 22 [] from rfl, htail',
    Except.ok.injEq] at htail
  subst hgap htail
  exact ⟨result, front, tree, kept, ['\x7d'], others, hread, hparts, hkept.mpr (by decide)⟩

end TaggedMarkup
