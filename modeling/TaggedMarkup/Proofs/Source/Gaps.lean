import Mathlib.Data.List.Forall2
import Mathlib.Data.List.TakeWhile
import Mathlib.Tactic.Conv
import TaggedMarkup.Proofs.Source.Embedded
import TaggedMarkup.Proofs.Source.LineBreaks

/-!
# Code between trees

The trees in an expression cut its code into gaps: one before the first tree,
one between any two, and one after the last.  A gap is kept but for the white
space at its ends.  That is unwrapped where a tree ends or begins, except after
a comment and after a word such as `return`, which a line break would part from
the tree.
-/

namespace TaggedMarkup

/-! ## The place of a node -/

/-- A node in the tree of `root`, with the siblings before it, those before its parent, and so on
up to the root. -/
inductive Node.Locates (root : Node) : Node → List (List Node) → Prop
  | root : Node.Locates root root []
  | child {parent node : Node} {left right : List Node} {lefts : List (List Node)}
      (h : Node.Locates root parent lefts)
      (hchildren : parent.children = left ++ node :: right) :
      Node.Locates root node (left :: lefts)

/-- The nearest sibling before a node or before one of its ancestors. -/
def nearestBefore (lefts : List (List Node)) : Option Node :=
  lefts.findSome? List.getLast?

/-- A node in the context that its place gives it. -/
def Node.inPlace (node : Node) (lefts : List (List Node)) : Cursor :=
  ⟨node, (nearestBefore lefts).map Node.kind⟩

@[simp] theorem nearestBefore_nil_cons (lefts : List (List Node)) :
    nearestBefore ([] :: lefts) = nearestBefore lefts :=
  rfl

@[simp] theorem nearestBefore_concat (left : List Node) (node : Node) (lefts : List (List Node)) :
    nearestBefore ((left ++ [node]) :: lefts) = some node := by
  simp [nearestBefore]

mutual

/-- The search for trees hands each of them the context that its place gives it. -/
theorem Node.locates_of_mem_trees {root : Node} : ∀ (node : Node) (lefts : List (List Node)),
    root.Locates node lefts → ∀ span ∈ (node.inPlace lefts).trees,
      ∃ places, root.Locates span.node places ∧ span = span.node.inPlace places
  | ⟨kind, start, stop, named, field, missing, children⟩, lefts, h => by
    intro span hmem
    rw [Cursor.trees, Node.inPlace, Node.trees] at hmem
    split at hmem
    case isTrue =>
      cases List.mem_singleton.mp hmem
      exact ⟨lefts, h, rfl⟩
    case isFalse =>
      exact locates_of_mem_treesIn children [] lefts h rfl span hmem

theorem locates_of_mem_treesIn {root : Node} : ∀ (nodes left : List Node)
    (lefts : List (List Node)) {parent : Node}, root.Locates parent lefts →
      parent.children = left ++ nodes →
      ∀ span ∈ treesIn ((nearestBefore (left :: lefts)).map Node.kind) nodes,
        ∃ places, root.Locates span.node places ∧ span = span.node.inPlace places
  | [], _, _, _, _, _ => by simp [treesIn]
  | node :: nodes, left, lefts, parent, h, hchildren => by
    intro span hmem
    rw [treesIn] at hmem
    rcases List.mem_append.mp hmem with hmem | hmem
    · exact Node.locates_of_mem_trees node (left :: lefts) (.child h hchildren) span hmem
    · have hrest : parent.children = (left ++ [node]) ++ nodes := by simp [hchildren]
      refine locates_of_mem_treesIn nodes (left ++ [node]) lefts h hrest span ?_
      simpa using hmem

end

theorem Node.Locates.all {p : Node → Prop} {root node : Node} {lefts : List (List Node)}
    (h : root.Locates node lefts) (hall : root.All p) : node.All p := by
  induction h with
  | root => exact hall
  | child _ hchildren ih =>
      exact allIn_iff.mp (Node.all_iff.mp ih).2 _ (by simp [hchildren])

/-- A line break may be removed before a node in this place. -/
def MayUnwrap (lefts : List (List Node)) : Prop :=
  ∃ sibling, nearestBefore lefts = some sibling ∧ sibling.kind.keepsLineBreak = false

theorem mayUnwrap_inPlace (node : Node) (lefts : List (List Node)) :
    (node.inPlace lefts).mayUnwrap = true ↔ MayUnwrap lefts := by
  rw [Node.inPlace, Cursor.mayUnwrap, MayUnwrap]
  cases nearestBefore lefts <;> simp

/-! ## The white space of a gap -/

/-- A text that begins and ends in characters that are not blank. -/
def IsCore (text : Text) : Prop :=
  (∃ c ∈ text.head?, isBlank c = false) ∧ ∃ c ∈ text.getLast?, isBlank c = false

/-- How some code is kept between two trees, where `after` says that the white space after a tree
may be unwrapped and `before` that the white space before one may. -/
structure Rewraps (after before : Prop) (written kept : Text) : Prop where
  core : ∀ left core right, written = left ++ core ++ right →
    (∀ c ∈ left, isBlank c = true) → (∀ c ∈ right, isBlank c = true) → IsCore core →
    ∃ left' right', kept = left' ++ core ++ right' ∧
      Unwraps after left left' ∧ Unwraps before right right'
  blank : (∀ c ∈ written, isBlank c = true) → ∀ c ∈ kept, isBlank c = true
  same : kept.filter (!isBlank ·) = written.filter (!isBlank ·)

theorem Unwraps.keep (blanks : Text) : Unwraps (false = true) blanks blanks :=
  .inr ⟨by simp, rfl⟩

theorem Unwraps.congr {may other : Prop} {blanks kept : Text} (hiff : may ↔ other)
    (h : Unwraps may blanks kept) : Unwraps other blanks kept := by
  rwa [Unwraps, ← hiff]

theorem exists_unwrapped_start (follows : Bool) (text : Text) :
    ∃ kept, (if follows then unwrapAfter text else text) = kept ++ text.dropWhile isBlank ∧
      Unwraps (follows = true) (text.takeWhile isBlank) kept := by
  cases follows with
  | false => exact ⟨_, List.takeWhile_append_dropWhile.symm, .keep _⟩
  | true =>
      obtain ⟨kept, hafter, hkept⟩ := exists_unwrapAfter_eq text
      exact ⟨kept, hafter, hkept.congr (by simp)⟩

theorem exists_unwrapped_end (unwraps : Bool) (text : Text) :
    ∃ kept, (if unwraps then unwrapBefore text else text) = stripEnd isBlank text ++ kept ∧
      Unwraps (unwraps = true) (runAtEnd isBlank text) kept := by
  cases unwraps with
  | false => exact ⟨_, (stripEnd_append_runAtEnd isBlank text).symm, .keep _⟩
  | true =>
      obtain ⟨kept, hbefore, hkept⟩ := exists_unwrapBefore_eq text
      exact ⟨kept, hbefore, hkept.congr (by simp)⟩

theorem filter_eq_nil_of_blank {text : Text} (h : ∀ c ∈ text, isBlank c = true) :
    text.filter (!isBlank ·) = [] := by
  rw [List.filter_eq_nil_iff]
  intro c hmem
  simp [h c hmem]

theorem blank_of_mem_runAtEnd {text : Text} : ∀ c ∈ runAtEnd isBlank text, isBlank c = true := by
  intro c hmem
  rw [runAtEnd, List.mem_reverse] at hmem
  exact List.mem_takeWhile_imp hmem

theorem filter_unwrapped_start (follows : Bool) (text : Text) :
    (if follows then unwrapAfter text else text).filter (!isBlank ·) =
      text.filter (!isBlank ·) := by
  obtain ⟨kept, hkept, hunwraps⟩ := exists_unwrapped_start follows text
  have hblank := hunwraps.blank fun c => List.mem_takeWhile_imp
  conv_rhs => rw [← List.takeWhile_append_dropWhile (p := isBlank) (l := text)]
  rw [hkept, List.filter_append, List.filter_append, filter_eq_nil_of_blank hblank,
    filter_eq_nil_of_blank fun c => List.mem_takeWhile_imp]

theorem filter_unwrapped_end (unwraps : Bool) (text : Text) :
    (if unwraps then unwrapBefore text else text).filter (!isBlank ·) =
      text.filter (!isBlank ·) := by
  obtain ⟨kept, hkept, hunwraps⟩ := exists_unwrapped_end unwraps text
  have hblank := hunwraps.blank blank_of_mem_runAtEnd
  conv_rhs => rw [← stripEnd_append_runAtEnd isBlank text]
  rw [hkept, List.filter_append, List.filter_append, filter_eq_nil_of_blank hblank,
    filter_eq_nil_of_blank blank_of_mem_runAtEnd]

theorem unwrapGap_core (follows unwraps : Bool) {left core right : Text}
    (hleft : ∀ c ∈ left, isBlank c = true) (hright : ∀ c ∈ right, isBlank c = true)
    (hcore : IsCore core) :
    ∃ left' right', unwrapGap follows unwraps (left ++ core ++ right) = left' ++ core ++ right' ∧
      Unwraps (follows = true) left left' ∧ Unwraps (unwraps = true) right right' := by
  obtain ⟨⟨first, hfirst, hfirstSolid⟩, last, hlast, hlastSolid⟩ := hcore
  obtain ⟨tail, htail⟩ := List.head?_eq_some_iff.mp hfirst
  obtain ⟨stem, hstem⟩ := List.getLast?_eq_some_iff.mp hlast
  have htake : (left ++ core ++ right).takeWhile isBlank = left := by
    rw [List.append_assoc, List.takeWhile_append_of_pos hleft, htail, List.cons_append,
      List.takeWhile_cons_of_neg (by simp [hfirstSolid]), List.append_nil]
  have hdrop : (left ++ core ++ right).dropWhile isBlank = core ++ right := by
    rw [List.append_assoc, List.dropWhile_append_of_pos hleft, htail, List.cons_append,
      List.dropWhile_cons_of_neg (by simp [hfirstSolid])]
  obtain ⟨left', hstart, hunwrapsLeft⟩ := exists_unwrapped_start follows (left ++ core ++ right)
  rw [htake] at hunwrapsLeft
  rw [hdrop] at hstart
  -- the end of the gap is that of the core, whatever became of the start
  have hshape : left' ++ (core ++ right) = (left' ++ stem) ++ last :: right := by simp [hstem]
  obtain ⟨hstrip, hrun⟩ := runAtEnd_of_stop isBlank (left' ++ stem) last hlastSolid hright
  obtain ⟨right', hend, hunwrapsRight⟩ := exists_unwrapped_end unwraps (left' ++ (core ++ right))
  rw [hshape, hstrip] at hend
  rw [hshape, hrun] at hunwrapsRight
  refine ⟨left', right', ?_, hunwrapsLeft, hunwrapsRight⟩
  simp only [unwrapGap, hstart, hshape]
  rw [hend, hstem]
  simp

theorem rewraps_unwrapGap (follows unwraps : Bool) (text : Text) :
    Rewraps (follows = true) (unwraps = true) text (unwrapGap follows unwraps text) := by
  have hsame : (unwrapGap follows unwraps text).filter (!isBlank ·) =
      text.filter (!isBlank ·) := by
    rw [unwrapGap, filter_unwrapped_end, filter_unwrapped_start]
  refine ⟨?_, ?_, hsame⟩
  · rintro left core right rfl hleft hright hcore
    exact unwrapGap_core follows unwraps hleft hright hcore
  · intro hblank c hmem
    rw [filter_eq_nil_of_blank hblank, List.filter_eq_nil_iff] at hsame
    simpa using hsame c hmem

theorem Rewraps.congr {after before other : Prop} {written kept : Text} (hiff : before ↔ other)
    (h : Rewraps after before written kept) : Rewraps after other written kept := by
  obtain rfl := propext hiff
  exact h

/-! ## The gaps of an expression -/

/-- The code from one tree to the next: `follows` says that a tree ends where it starts, and `next`
is the tree that begins where it stops, if one does. -/
structure Gap where
  start : Nat
  stop : Nat
  follows : Bool
  next : Option Cursor

/-- The gaps before, between and after some trees. -/
def gapsAround (stop : Nat) : Nat → Bool → List Cursor → List Gap
  | start, follows, [] => [⟨start, stop, follows, none⟩]
  | start, follows, span :: spans =>
    ⟨start, span.node.start, follows, some span⟩ :: gapsAround stop span.node.stop true spans

/-- What is kept of a gap. -/
def Gap.Keeps (source : Source) (root : Node) (gap : Gap) (kept : Text) : Prop :=
  ∃ written, source.slice gap.start gap.stop = .ok written ∧
    (gap.next = none → Rewraps (gap.follows = true) False written kept) ∧
    ∀ span, gap.next = some span → ∃ lefts, root.Locates span.node lefts ∧
      span = span.node.inPlace lefts ∧
      Rewraps (gap.follows = true) (MayUnwrap lefts) written kept

/-- The tree that a node stands for. -/
def Source.Maps (source : Source) (span : Cursor) (tree : Tree) : Prop :=
  ∃ found, span.element? = some found ∧ source.readElement found = .ok tree

def Part.tree? : Part → Option Tree
  | .tree inner => some inner
  | .code _ => none

/-- Trees with code before, between and after them. -/
def weave : List Text → List Tree → List Part
  | [], trees => trees.map .tree
  | text :: texts, [] => Source.codeParts text ++ weave texts []
  | text :: texts, tree :: trees => Source.codeParts text ++ .tree tree :: weave texts trees

theorem filterMap_codeParts (text : Text) :
    (Source.codeParts text).filterMap Part.tree? = [] := by
  unfold Source.codeParts
  split <;> rfl

theorem filterMap_weave (texts : List Text) (trees : List Tree) :
    (weave texts trees).filterMap Part.tree? = trees := by
  fun_induction weave texts trees with
  | case1 trees =>
      rw [List.filterMap_map]
      exact List.filterMap_some
  | case2 text texts ih => rw [List.filterMap_append, filterMap_codeParts, ih, List.nil_append]
  | case3 text texts tree trees ih =>
      rw [List.filterMap_append, filterMap_codeParts, List.filterMap_cons, ih]
      rfl

theorem gapsAround_ordered {stop start : Nat} {follows : Bool} {spans : List Cursor}
    (hsize : start ≤ stop) (hwithin : ∀ span ∈ spans, span.Within start stop)
    (hordered : Ordered spans) :
    ∀ gap ∈ gapsAround stop start follows spans, gap.start ≤ gap.stop := by
  induction spans generalizing start follows with
  | nil => simpa [gapsAround] using hsize
  | cons span spans ih =>
      obtain ⟨hlow, hspan, hhigh⟩ := hwithin span List.mem_cons_self
      obtain ⟨hnext, hrest⟩ := List.pairwise_cons.mp hordered
      intro gap hmem
      rcases List.mem_cons.mp hmem with rfl | hmem
      · exact hlow
      · refine ih hhigh ?_ hrest gap hmem
        intro other hother
        obtain ⟨-, hsize, hstop⟩ := hwithin other (List.mem_cons_of_mem span hother)
        exact ⟨hnext other hother, hsize, hstop⟩

section Reading

variable {code file : Text}

theorem readParts_of_code {source : Source} {stop start : Nat} {follows : Bool} {text : Text}
    (hslice : source.slice start stop = .ok text) :
    source.readParts stop start follows [] =
      .ok (Source.codeParts (unwrapGap follows false text)) := by
  rw [Source.readParts, hslice]
  rfl

/-- The trees are read in their order, and every gap is kept. -/
theorem exists_readParts {root : Node} {stop start : Nat} (follows : Bool) {spans : List Cursor}
    (hstart : Utf8.IsBoundary code start) (hstop : Utf8.IsBoundary code stop)
    (haligned : ∀ span ∈ spans, span.node.Aligned code)
    (hplaces : ∀ span ∈ spans, ∃ lefts,
      root.Locates span.node lefts ∧ span = span.node.inPlace lefts)
    (hmaps : ∀ span ∈ spans, ∃ tree, (Source.ofText code file).Maps span tree) :
    ∃ texts trees,
      (Source.ofText code file).readParts stop start follows spans = .ok (weave texts trees) ∧
      List.Forall₂ (Source.ofText code file).Maps spans trees ∧
      List.Forall₂ (Gap.Keeps (.ofText code file) root) (gapsAround stop start follows spans)
        texts := by
  induction spans generalizing start follows with
  | nil =>
      obtain ⟨text, hslice, -⟩ := Source.slice_ofText file hstart hstop
      refine ⟨[unwrapGap follows false text], [], ?_, .nil, .cons ⟨text, hslice, ?_, ?_⟩ .nil⟩
      · rw [readParts_of_code hslice, weave, weave, List.map_nil, List.append_nil]
      · intro _
        exact (rewraps_unwrapGap follows false text).congr (by simp)
      · intro span hnext
        cases hnext
  | cons span spans ih =>
      obtain ⟨hspanStart, hspanStop⟩ := haligned span List.mem_cons_self
      obtain ⟨lefts, hplace, hcursor⟩ := hplaces span List.mem_cons_self
      obtain ⟨tree, found, hfound, htree⟩ := hmaps span List.mem_cons_self
      obtain ⟨texts, trees, hothers, hread, hkept⟩ := ih true hspanStop
        (fun other hother => haligned other (List.mem_cons_of_mem span hother))
        (fun other hother => hplaces other (List.mem_cons_of_mem span hother))
        fun other hother => hmaps other (List.mem_cons_of_mem span hother)
      obtain ⟨text, hslice, -⟩ := Source.slice_ofText file hstart hspanStart
      refine ⟨unwrapGap follows span.mayUnwrap text :: texts, tree :: trees, ?_,
        .cons ⟨found, hfound, htree⟩ hread, .cons ⟨text, hslice, ?_, ?_⟩ hkept⟩
      · exact Source.readParts_of_tree hslice hfound htree hothers
      · intro hnone
        cases hnone
      · intro other hnext
        cases hnext
        refine ⟨lefts, hplace, hcursor, (rewraps_unwrapGap follows span.mayUnwrap text).congr ?_⟩
        conv_lhs => rw [hcursor]
        exact mayUnwrap_inPlace span.node lefts

/-- Reading an expression takes no code from it and adds none, but for the white space around the
trees in it. -/
theorem readExpression_keeps_code {tree : SyntaxTree} (htree : tree.ParsedFrom code)
    {node : Node} {lefts : List (List Node)} (hplace : tree.root.Locates node lefts)
    (hmaps : ∀ span ∈ (node.inPlace lefts).trees,
      ∃ inner, (Source.ofText code file).Maps span inner) :
    ∃ result texts trees,
      (Source.ofText code file).readExpression (node.inPlace lefts) = .ok result ∧
      result.parts.filterMap Part.tree? = trees ∧
      List.Forall₂ (Source.ofText code file).Maps (node.inPlace lefts).trees trees ∧
      result.parts = weave texts trees ∧
      List.Forall₂ (Gap.Keeps (.ofText code file) tree.root)
        (gapsAround node.stop node.start false (node.inPlace lefts).trees) texts ∧
      (∀ gap ∈ gapsAround node.stop node.start false (node.inPlace lefts).trees,
        gap.start ≤ gap.stop) ∧
      ((node.inPlace lefts).trees = [] → ∃ text,
        (Source.ofText code file).textOf node = .ok text ∧
        result.parts = Source.codeParts text) := by
  have haligned := hplace.all htree.aligned
  have hformed : node.WellFormed := hplace.all htree.nested
  obtain ⟨hstart, hstop⟩ := (Node.all_iff.mp haligned).1
  obtain ⟨hwithin, hordered⟩ :=
    Node.trees_within ((nearestBefore lefts).map Node.kind) node hformed
  have hspans : ∀ span ∈ (node.inPlace lefts).trees, span.node.Aligned code := by
    intro span hmem
    exact (Node.all_iff.mp (haligned.of_mem_trees _ node span hmem)).1
  obtain ⟨texts, trees, hparts, hread, hkept⟩ := exists_readParts false hstart hstop hspans
    (Node.locates_of_mem_trees node lefts hplace) hmaps
  have hresult : (Source.ofText code file).readExpression (node.inPlace lefts) =
      .ok ⟨weave texts trees, (Source.ofText code file).position node.start⟩ := by
    rw [Source.readExpression]
    change ((Source.ofText code file).readParts node.stop node.start false _ >>= _) = _
    rw [hparts]
    rfl
  refine ⟨_, texts, trees, hresult, filterMap_weave texts trees, hread, rfl, hkept,
    gapsAround_ordered (Node.all_iff.mp hformed).1.ordered hwithin hordered, ?_⟩
  intro hnone
  obtain ⟨text, hslice, -⟩ := Source.slice_ofText file hstart hstop
  rw [hnone, readParts_of_code hslice] at hparts
  exact ⟨text, hslice, (Except.ok.inj hparts).symm⟩

end Reading

/-! ## A call over lines -/

/-- A call of two trees on lines of their own, with a comment before the second. -/
def wrappedCode : Text :=
  "f(\n<a/>,\n// b\n<b/>\n)".toList

def wrappedCall : Node :=
  statementNode 0 20 [nameNode 0 1, tokenNode "(" 1 2, tagNode 3 5, tokenNode "," 7 8,
    { kind := .comment, start := 9, stop := 13 }, tagNode 14 16, tokenNode ")" 19 20]

def wrappedTree : SyntaxTree where
  root := { kind := .program, start := 0, stop := 20, children := [wrappedCall] }

theorem wrappedTree_parsedFrom : wrappedTree.ParsedFrom wrappedCode where
  readable := by decide
  nested := by
    simp only [wrappedTree, wrappedCall, statementNode, nameNode, tokenNode, tagNode,
      Node.WellFormed, Node.All, AllIn]
    decide
  aligned := by
    simp only [wrappedTree, wrappedCall, statementNode, nameNode, tokenNode, tagNode, Node.All,
      AllIn, Node.Aligned]
    decide

theorem wrappedCall_trees : (wrappedCall.inPlace [[]]).trees =
    [⟨tagNode 3 5, some (.other "(")⟩, ⟨tagNode 14 16, some .comment⟩] := by
  rfl

theorem wrappedCall_keeps_comment :
    ∃ result first second start stop,
      (Source.ofText wrappedCode []).readExpression (wrappedCall.inPlace [[]]) = .ok result ∧
      result.parts =
        weave [start, [',', '\n', '/', '/', ' ', 'b', '\n'], stop] [first, second] ∧
      start.filter (!isBlank ·) = ['f', '('] ∧ stop.filter (!isBlank ·) = [')'] := by
  have hplace : wrappedTree.root.Locates wrappedCall [[]] := .child .root rfl
  have hmaps : ∀ span ∈ (wrappedCall.inPlace [[]]).trees,
      ∃ inner, (Source.ofText wrappedCode []).Maps span inner := by
    rw [wrappedCall_trees]
    intro span hmem
    rcases List.mem_pair.mp hmem with rfl | rfl
    · refine ⟨.element ⟨.static ['a'], [], [], false, ⟨2, 1⟩⟩, _, rfl, ?_⟩
      with_unfolding_all rfl
    · refine ⟨.element ⟨.static ['b'], [], [], false, ⟨4, 1⟩⟩, _, rfl, ?_⟩
      with_unfolding_all rfl
  have hfirst : (Source.ofText wrappedCode []).slice 0 3 = .ok ['f', '(', '\n'] := rfl
  have hsecond : (Source.ofText wrappedCode []).slice 7 14 =
      .ok [',', '\n', '/', '/', ' ', 'b', '\n'] := rfl
  have hthird : (Source.ofText wrappedCode []).slice 18 20 = .ok ['\n', ')'] := rfl
  obtain ⟨result, texts, trees, hread, -, htrees, hparts, hkept, -⟩ :=
    readExpression_keeps_code wrappedTree_parsedFrom hplace hmaps
  rw [wrappedCall_trees] at htrees hkept
  obtain ⟨first, _, -, hothers, rfl⟩ := List.forall₂_cons_left_iff.mp htrees
  obtain ⟨second, _, -, hnone, rfl⟩ := List.forall₂_cons_left_iff.mp hothers
  cases List.forall₂_nil_left_iff.mp hnone
  obtain ⟨start, _, ⟨_, hslice, -, hstart⟩, hlater, rfl⟩ := List.forall₂_cons_left_iff.mp hkept
  cases hfirst.symm.trans hslice
  obtain ⟨middle, _, ⟨_, hslice, -, hmiddle⟩, hlast, rfl⟩ :=
    List.forall₂_cons_left_iff.mp hlater
  cases hsecond.symm.trans hslice
  obtain ⟨stop, _, ⟨_, hslice, hstop, -⟩, hend, rfl⟩ := List.forall₂_cons_left_iff.mp hlast
  cases hthird.symm.trans hslice
  cases List.forall₂_nil_left_iff.mp hend
  obtain ⟨_, -, -, hstart⟩ := hstart _ rfl
  obtain ⟨lefts, -, hcursor, hmiddle⟩ := hmiddle _ rfl
  have hcomment : ¬ MayUnwrap lefts := by
    rw [← mayUnwrap_inPlace (tagNode 14 16), ← hcursor]
    decide
  have hblank : ∀ c ∈ ['\n'], isBlank c = true := by
    intro c hmem
    rw [List.mem_singleton.mp hmem]
    decide
  obtain ⟨left, right, rfl, hleft, hright⟩ :=
    hmiddle.core [] [',', '\n', '/', '/', ' ', 'b'] ['\n'] rfl (by simp) hblank
      ⟨⟨',', rfl, by decide⟩, 'b', rfl, by decide⟩
  rcases hleft with ⟨-, hbreaks, -⟩ | ⟨-, rfl⟩
  · cases hbreaks
  rcases hright with ⟨hmay, -⟩ | ⟨-, rfl⟩
  · exact absurd hmay hcomment
  exact ⟨result, first, second, start, stop, hread, hparts, hstart.same, (hstop rfl).same⟩

end TaggedMarkup
