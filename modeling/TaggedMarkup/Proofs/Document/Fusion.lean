import Mathlib.Data.List.TakeWhile
import TaggedMarkup.Proofs.Document.Layout
import TaggedMarkup.Proofs.Source.Embedded
import TaggedMarkup.Proofs.Template.Scannable

/-!
# Words before templates

A tree begins with `<` or with a parenthesis, so in a program a word may stand
right before it.  Its template begins with the tag, and the two become one word.
This happens to a template in the new program, at any depth, exactly where a
tree of the program, or of an expression in one of its trees, stands right after
a character of a word.
-/

namespace TaggedMarkup

/-! ## Words -/

def isWordChar (c : Char) : Bool :=
  isIdentifierStart c || Reference.isDecimal c

def endsInWord (text : Text) : Bool :=
  text.getLast?.any isWordChar

theorem toNat_of_isWordChar {c : Char} (h : isWordChar c = true) :
    36 ≤ c.toNat ∧ c.toNat ≤ 122 := by
  simp only [isWordChar, isIdentifierStart, Reference.isLetter, Reference.isDecimal,
    Bool.or_eq_true, Bool.and_eq_true, decide_eq_true_eq, beq_iff_eq, Char.le_def,
    UInt32.le_iff_toNat_le] at h
  rcases h with ((((h | h) | rfl) | rfl)) | h
  · exact ⟨Nat.le_trans (by decide) h.1, h.2⟩
  · exact ⟨Nat.le_trans (by decide) h.1, Nat.le_trans h.2 (by decide)⟩
  · decide
  · decide
  · exact ⟨Nat.le_trans (by decide) h.1, Nat.le_trans h.2 (by decide)⟩

theorem isWordChar_of_isBlank {c : Char} (h : isBlank c = true) : isWordChar c = false := by
  have hranges : ∀ range ∈ blankRanges, range.2 < 36 ∨ 122 < range.1 := by decide
  rw [isBlank, covers_iff] at h
  obtain ⟨range, hmem, hlow, hhigh⟩ := h
  have houtside := hranges range hmem
  rw [← Bool.not_eq_true]
  intro hword
  have := toNat_of_isWordChar hword
  omega

theorem endsInWord_append (first : Text) {second : Text} (h : second ≠ []) :
    endsInWord (first ++ second) = endsInWord second := by
  rw [endsInWord, List.getLast?_append_of_ne_nil _ h, endsInWord]

theorem endsInWord_of_blank {text : Text} (h : ∀ c ∈ text, isBlank c = true) :
    endsInWord text = false := by
  rw [endsInWord, Option.any_eq_false]
  intro c hlast
  simp [isWordChar_of_isBlank (h c (List.mem_of_getLast? hlast))]

theorem endsInWord_unwrapAfter (text : Text) : endsInWord (unwrapAfter text) = endsInWord text := by
  have hsplit : text.takeWhile isBlank ++ text.dropWhile isBlank = text :=
    List.takeWhile_append_dropWhile
  have hkept : endsInWord (text.dropWhile isBlank) = endsInWord text := by
    by_cases hrest : text.dropWhile isBlank = []
    · rw [hrest, endsInWord_of_blank (List.dropWhile_eq_nil_iff.mp hrest)]
      rfl
    · conv_rhs => rw [← hsplit, endsInWord_append _ hrest]
  unfold unwrapAfter
  dsimp only
  split
  case isTrue => rfl
  case isFalse =>
    split
    case isTrue => exact hkept
    case isFalse hcloser =>
      have hrest : text.dropWhile isBlank ≠ [] := by
        intro hnil
        rw [hnil] at hcloser
        exact hcloser rfl
      rw [← hkept]
      exact endsInWord_append [' '] hrest

theorem endsInWord_unwrapBefore (text : Text) :
    endsInWord (unwrapBefore text) = endsInWord text := by
  unfold unwrapBefore
  dsimp only
  split
  case isTrue => rfl
  case isFalse hbreaks =>
    -- white space at the end goes, and what is left does not end in a word either
    have hrun : runAtEnd isBlank text ≠ [] := by
      intro hnil
      rw [hnil] at hbreaks
      exact hbreaks rfl
    have hblank : endsInWord text = false := by
      rw [← stripEnd_append_runAtEnd isBlank text, endsInWord_append _ hrun]
      apply endsInWord_of_blank
      intro c hmem
      rw [runAtEnd, List.mem_reverse] at hmem
      exact List.mem_takeWhile_imp hmem
    rw [hblank]
    split
    case isTrue hopener =>
      rw [endsInWord, Option.any_eq_false]
      intro c hlast
      rw [hlast, Option.all_some, isOpener, Bool.or_eq_true, Bool.or_eq_true, beq_iff_eq,
        beq_iff_eq, beq_iff_eq] at hopener
      rcases hopener with (rfl | rfl) | rfl <;> decide
    case isFalse =>
      rw [endsInWord_append _ (by simp)]
      decide

theorem endsInWord_unwrapGap (follows unwraps : Bool) (text : Text) :
    endsInWord (unwrapGap follows unwraps text) = endsInWord text := by
  cases follows <;> cases unwraps <;>
    simp [unwrapGap, endsInWord_unwrapAfter, endsInWord_unwrapBefore]

/-- A template ends in a backtick, so what follows it alone decides. -/
theorem endsInWord_after_template (before : Text) (template : Template) (rest : Text) :
    endsInWord (before ++ (template.render ++ rest)) = endsInWord rest := by
  cases rest with
  | nil =>
      rw [Template.render_eq, Template.body, List.append_nil, ← List.cons_append,
        ← List.append_assoc, ← List.append_assoc, endsInWord_append _ (by simp)]
      decide
  | cons c rest =>
      rw [← List.append_assoc, endsInWord_append _ (by simp)]

/-! ## Trees after words -/

/-- The code before a tree begins at the end of the tree before it, or at `start`. -/
def gapStart (start : Nat) : List Cursor → Nat
  | [] => start
  | cursor :: cursors => gapStart cursor.node.stop cursors

/-- One of the trees stands right after a character of a word. -/
def Source.Fuses (source : Source) (start : Nat) (trees : List Cursor) : Prop :=
  ∃ earlier tree later text, trees = earlier ++ tree :: later ∧
    source.slice (gapStart start earlier) tree.node.start = .ok text ∧ endsInWord text = true

/-- An expression of a tree, or of a tree in one of its expressions, at any depth. -/
inductive Cursor.Reaches : Cursor → Cursor → Prop
  | own {span found expression : Cursor} (hfound : span.element? = some found)
      (h : found.Embeds expression) : Cursor.Reaches span expression
  | inside {span found expression tree inner : Cursor} (hfound : span.element? = some found)
      (hembeds : found.Embeds expression) (hmem : tree ∈ expression.trees)
      (h : Cursor.Reaches tree inner) : Cursor.Reaches span inner

section Stretch

variable {source : Source} {settings : Settings} {unwrap : Bool → Bool → Text → Text}
  {unwraps follows : Bool} {stop start : Nat} {trees : List Cursor} {parts : List Part}
  {compiled : List SourcePart}

/-- New code ends in a word exactly if the code that it comes from does. -/
theorem Source.Stretch.endsInWord_eq
    (hunwrap : ∀ follows unwraps text, endsInWord (unwrap follows unwraps text) = endsInWord text)
    (h : source.Stretch unwrap unwraps stop start follows trees parts)
    (hcompile : compileParts settings parts = .ok compiled) :
    ∃ text, source.slice (gapStart start trees) stop = .ok text ∧
      endsInWord (renderParts compiled) = endsInWord text := by
  induction h generalizing compiled with
  | @code start follows text hslice =>
      obtain ⟨same, hcode, hrender⟩ :=
        compileParts_codeParts settings (unwrap follows unwraps text)
      rw [hcode, Except.ok.injEq] at hcompile
      refine ⟨text, hslice, ?_⟩
      rw [← hcompile, hrender, hunwrap]
  | tree hslice hfound htree _ ih =>
      obtain ⟨front, rest, -, hrest, rfl⟩ := compileParts_append hcompile
      obtain ⟨first, others, hfirst, hothers, rfl⟩ := compileParts_cons hrest
      obtain ⟨template, -, rfl⟩ := compilePart_tree hfirst
      obtain ⟨text, hgap, hends⟩ := ih hothers
      refine ⟨text, hgap, ?_⟩
      rw [← hends, renderParts_append, renderParts, SourcePart.render, endsInWord_after_template]

end Stretch

/-! ## Printed templates -/

/-- The text of a template goes up to one of its holes with `lead`. -/
def Template.OpensHole (template : Template) (lead : Text) (hole : Hole) : Prop :=
  ∃ quasi quasis next later holes others,
    template.quasis = quasi :: (quasis ++ next :: later) ∧
    template.holes = holes ++ hole :: others ∧ quasis.length = holes.length ∧
    lead = template.tag ++ '\x60' :: quasi ++ renderHoles holes quasis ++ ['$', '\x7b']

/-- In the text of these parts a template, at any depth, is printed right after the text. -/
inductive PrintsAt : List SourcePart → Text → Template → Prop
  | here {front back : List SourcePart} {template : Template} :
      PrintsAt (front ++ .template template :: back) (renderParts front) template
  | inside {front back : List SourcePart} {template inner : Template} {lead left : Text}
      {hole : Hole} (hhole : template.OpensHole lead hole) (h : PrintsAt hole.parts left inner) :
      PrintsAt (front ++ .template template :: back) (renderParts front ++ lead ++ left) inner

theorem renderHoles_append {holes others : List Hole} {quasis later : List Text} {hole : Hole}
    {next : Text} (h : quasis.length = holes.length) :
    renderHoles (holes ++ hole :: others) (quasis ++ next :: later) =
      renderHoles holes quasis ++ '$' :: '\x7b' :: hole.render ++ '\x7d' :: next ++
        renderHoles others later := by
  induction holes generalizing quasis with
  | nil =>
      rw [List.length_eq_zero_iff.mp h]
      simp [renderHoles]
  | cons first holes ih =>
      cases quasis with
      | nil => simp at h
      | cons quasi quasis =>
          simp only [List.length_cons, Nat.add_right_cancel_iff] at h
          simp [renderHoles, ih h]

theorem Template.OpensHole.render_eq {template : Template} {lead : Text} {hole : Hole}
    (h : template.OpensHole lead hole) :
    ∃ rest, template.render = lead ++ hole.render ++ rest := by
  obtain ⟨tag, quasis, holes⟩ := template
  obtain ⟨quasi, front, next, later, before, others, rfl, rfl, hlength, rfl⟩ := h
  refine ⟨'\x7d' :: next ++ renderHoles others later ++ ['\x60'], ?_⟩
  simp [Template.render, renderHoles_append hlength]

theorem PrintsAt.render_eq {parts : List SourcePart} {before : Text} {inner : Template}
    (h : PrintsAt parts before inner) :
    ∃ after, renderParts parts = before ++ inner.render ++ after := by
  induction h with
  | @here front back template =>
      refine ⟨renderParts back, ?_⟩
      rw [renderParts_append, renderParts, SourcePart.render, List.append_assoc]
  | @inside front back template inner lead left hole hhole _ ih =>
      obtain ⟨after, hafter⟩ := ih
      obtain ⟨rest, hrest⟩ := hhole.render_eq
      refine ⟨after ++ rest ++ renderParts back, ?_⟩
      rw [renderParts_append, renderParts, SourcePart.render, hrest, hole.render_eq, hafter]
      simp

theorem exists_opensHole {settings : Settings} {tree : Tree} {template : Template} {hole : Hole}
    (h : compile settings tree = .ok template) (hmem : hole ∈ template.holes) :
    ∃ lead, template.OpensHole lead hole := by
  obtain ⟨segments, rfl⟩ := ofSegments_of_compile h
  rw [Template.ofSegments_eq] at hmem ⊢
  obtain ⟨holes, others, hholes⟩ := List.append_of_mem hmem
  have hlength : ((textsOf [] segments).map escape).length =
      (holes ++ hole :: others).length + 1 := by
    rw [List.length_map, length_textsOf, ← hholes]
  dsimp only at hholes
  cases htexts : (textsOf [] segments).map escape with
  | nil => simp [htexts] at hlength
  | cons quasi rest =>
      rw [htexts] at hlength
      simp only [List.length_cons, List.length_append, Nat.add_right_cancel_iff] at hlength
      have hlater : rest.drop holes.length ≠ [] := by
        rw [Ne, List.drop_eq_nil_iff]
        omega
      obtain ⟨next, later, hnext⟩ := List.exists_cons_of_ne_nil hlater
      refine ⟨_, quasi, rest.take holes.length, next, later, holes, others, ?_, hholes, ?_, rfl⟩
      · rw [← hnext, List.take_append_drop]
      · rw [List.length_take]
        omega

theorem Template.OpensHole.endsInWord_eq {template : Template} {lead : Text} {hole : Hole}
    (h : template.OpensHole lead hole) (before left : Text) :
    endsInWord (before ++ lead ++ left) = endsInWord left := by
  cases left with
  | nil =>
      obtain ⟨_, _, _, _, _, _, -, -, -, rfl⟩ := h
      rw [List.append_nil, ← List.append_assoc, endsInWord_append _ (by simp)]
      decide
  | cons c left => exact endsInWord_append _ (by simp)

theorem Template.OpensHole.mem_holes {template : Template} {lead : Text} {hole : Hole}
    (h : template.OpensHole lead hole) : hole ∈ template.holes := by
  obtain ⟨_, _, _, _, _, _, -, hholes, -⟩ := h
  simp [hholes]

theorem PrintsAt.exists_template {parts : List SourcePart} {before : Text} {inner : Template}
    (h : PrintsAt parts before inner) : ∃ front template back,
      parts = front ++ .template template :: back := by
  cases h with
  | here => exact ⟨_, _, _, rfl⟩
  | inside => exact ⟨_, _, _, rfl⟩

/-! ## Words before printed templates -/

section Fusion

variable {source : Source} {settings : Settings} {unwrap : Bool → Bool → Text → Text}
  {unwraps follows : Bool} {stop start : Nat} {trees : List Cursor} {parts : List Part}
  {compiled : List SourcePart}

/-- Somewhere in the trees, at any depth, a tree stands right after a character of a word. -/
def Source.FusesInside (source : Source) (start : Nat) (trees : List Cursor) : Prop :=
  source.Fuses start trees ∨ ∃ tree ∈ trees, ∃ expression, tree.Reaches expression ∧
    source.Fuses expression.node.start expression.trees

theorem Source.FusesInside.of_embeds {span found expression : Cursor} (hmem : span ∈ trees)
    (hfound : span.element? = some found) (hembeds : found.Embeds expression)
    (h : source.FusesInside expression.node.start expression.trees) :
    source.FusesInside start trees := by
  rcases h with h | ⟨tree, htree, inner, hreaches, h⟩
  · exact .inr ⟨span, hmem, expression, .own hfound hembeds, h⟩
  · exact .inr ⟨span, hmem, inner, .inside hfound hembeds htree hreaches, h⟩

-- The induction goes down the printed templates.  A hole that holds one comes
-- from an expression that has its own node, since a bare name and a string
-- literal have no template in them.
theorem fusesInside_of_printsAt {before : Text} {inner : Template}
    (h : PrintsAt compiled before inner) (hends : endsInWord before = true)
    (hunwrap : ∀ follows unwraps text, endsInWord (unwrap follows unwraps text) = endsInWord text)
    (hstretch : source.Stretch unwrap unwraps stop start follows trees parts)
    (hcompile : compileParts settings parts = .ok compiled) :
    source.FusesInside start trees := by
  induction h generalizing unwrap unwraps follows stop start trees parts with
  | here =>
      obtain ⟨front, tree, after, rfl, hfront, -⟩ := compileParts_eq_template hcompile
      obtain ⟨earlier, cursor, later, found, rfl, hearlier, -, -⟩ := hstretch.cursor_of_tree rfl
      obtain ⟨text, hslice, heq⟩ := hearlier.endsInWord_eq hunwrap hfront
      exact .inl ⟨earlier, cursor, later, text, rfl, hslice, heq ▸ hends⟩
  | inside hhole hprints ih =>
      rw [hhole.endsInWord_eq] at hends
      obtain ⟨front, tree, after, rfl, -, htree⟩ := compileParts_eq_template hcompile
      obtain ⟨earlier, cursor, later, found, rfl, -, hfound, hread⟩ := hstretch.cursor_of_tree rfl
      obtain ⟨nested, template, rest, hparts⟩ := hprints.exists_template
      rcases (holes_of_compile htree).1 _ hhole.mem_holes with
        ⟨text, rfl⟩ | ⟨held, hitem, hheld⟩
      · have hmem : SourcePart.template template ∈ Hole.parts (.literal text) := by simp [hparts]
        simp [Hole.parts] at hmem
      · have hcompiled := compileParts_parts hheld
        rcases (Source.readElement_holds hread).sound held hitem with
          hbare | ⟨expression, hembeds, hexpression⟩
        · rw [hparts] at hcompiled
          obtain ⟨_, inner, _, hsplit, -⟩ := compileParts_eq_template hcompiled
          exact absurd (by simp [hsplit]) (hbare inner)
        · refine .of_embeds (by simp) hfound hembeds ?_
          exact ih hends endsInWord_unwrapGap (Source.stretch_of_readExpression hexpression)
            hcompiled

theorem exists_printsAt_of_fuses
    (hunwrap : ∀ follows unwraps text, endsInWord (unwrap follows unwraps text) = endsInWord text)
    (hstretch : source.Stretch unwrap unwraps stop start follows trees parts)
    (hcompile : compileParts settings parts = .ok compiled) (h : source.Fuses start trees) :
    ∃ before inner, PrintsAt compiled before inner ∧ endsInWord before = true := by
  obtain ⟨earlier, cursor, later, text, rfl, hslice, hends⟩ := h
  obtain ⟨front, found, tree, rest, hfront, -, -, -, rfl⟩ := hstretch.split
  obtain ⟨first, others, hfirst, hothers, rfl⟩ := compileParts_append hcompile
  obtain ⟨part, second, hpart, -, rfl⟩ := compileParts_cons hothers
  obtain ⟨template, -, rfl⟩ := compilePart_tree hpart
  obtain ⟨same, hsame, heq⟩ := hfront.endsInWord_eq hunwrap hfirst
  rw [hslice, Except.ok.injEq] at hsame
  refine ⟨renderParts first, template, .here, ?_⟩
  rw [heq, ← hsame, hends]

/-- What is printed in the hole of an expression is printed in the code around its tree. -/
theorem exists_printsAt_of_embeds {span found expression : Cursor} (hmem : span ∈ trees)
    (hfound : span.element? = some found) (hembeds : found.Embeds expression)
    (hstretch : source.Stretch unwrap unwraps stop start follows trees parts)
    (hcompile : compileParts settings parts = .ok compiled)
    (h : ∀ held inner, source.readExpression expression = .ok held →
      compileParts settings held.parts = .ok inner →
      ∃ before template, PrintsAt inner before template ∧ endsInWord before = true) :
    ∃ before inner, PrintsAt compiled before inner ∧ endsInWord before = true := by
  obtain ⟨earlier, later, rfl⟩ := List.append_of_mem hmem
  obtain ⟨front, same, tree, rest, -, hsame, hread, -, rfl⟩ := hstretch.split
  rw [hfound, Option.some.injEq] at hsame
  subst hsame
  obtain ⟨first, others, -, hothers, rfl⟩ := compileParts_append hcompile
  obtain ⟨part, second, hpart, -, rfl⟩ := compileParts_cons hothers
  obtain ⟨template, htemplate, rfl⟩ := compilePart_tree hpart
  obtain ⟨held, hheld, hitem⟩ := (Source.readElement_holds hread).complete expression hembeds
  obtain ⟨hole, hhole, hcompiled⟩ := (holes_of_compile htemplate).2 held hitem
  obtain ⟨lead, hlead⟩ := exists_opensHole htemplate hhole
  obtain ⟨left, inner, hprints, hends⟩ := h held hole.parts hheld (compileParts_parts hcompiled)
  refine ⟨renderParts first ++ lead ++ left, inner, .inside hlead hprints, ?_⟩
  rw [hlead.endsInWord_eq, hends]

theorem exists_printsAt_of_reaches {span expression : Cursor} (hreaches : span.Reaches expression)
    (hfuses : source.Fuses expression.node.start expression.trees) (hmem : span ∈ trees)
    (hstretch : source.Stretch unwrap unwraps stop start follows trees parts)
    (hcompile : compileParts settings parts = .ok compiled) :
    ∃ before inner, PrintsAt compiled before inner ∧ endsInWord before = true := by
  induction hreaches generalizing unwrap unwraps follows stop start trees parts compiled with
  | own hfound hembeds =>
      refine exists_printsAt_of_embeds hmem hfound hembeds hstretch hcompile ?_
      intro held inner hheld hinner
      exact exists_printsAt_of_fuses endsInWord_unwrapGap
        (Source.stretch_of_readExpression hheld) hinner hfuses
  | inside hfound hembeds htree _ ih =>
      refine exists_printsAt_of_embeds hmem hfound hembeds hstretch hcompile ?_
      intro held inner hheld hinner
      exact ih hfuses htree (Source.stretch_of_readExpression hheld) hinner

end Fusion

/-- In a transformed program no template, at any depth, is printed right after a character of a
word exactly if no root stands right after one, and no tree in an expression of the roots does. -/
theorem templates_stand_apart_iff (settings : Settings) (code file : Text) (tree : SyntaxTree)
    (result : Transformed) (htree : tree.ParsedFrom code)
    (hresult : transformTree settings (.ofText code file) tree = .ok result) :
    let source := Source.ofText code file
    let roots := Cursor.trees ⟨tree.root, none⟩
    ∃ parts compiled,
      source.Stretch verbatim false (Utf8.encode code).length 0 false roots parts ∧
      compileParts settings parts = .ok compiled ∧ result.code = renderParts compiled ∧
      (∀ before inner, PrintsAt compiled before inner →
        ∃ after, result.code = before ++ inner.render ++ after) ∧
      ((∀ before inner, PrintsAt compiled before inner → endsInWord before = false) ↔
        ¬ source.Fuses 0 roots ∧ ∀ root ∈ roots, ∀ expression, root.Reaches expression →
          ¬ source.Fuses expression.node.start expression.trees) := by
  intro source roots
  obtain ⟨parts, compiled, hstretch, hcompile, hcode⟩ := becomes_of_transformTree htree hresult
  have hverbatim : ∀ follows unwraps text,
      endsInWord (verbatim follows unwraps text) = endsInWord text := fun _ _ _ => rfl
  refine ⟨parts, compiled, hstretch, hcompile, hcode, ?_, ?_, ?_⟩
  · intro before inner hprints
    rw [hcode]
    exact hprints.render_eq
  · intro hapart
    have hnone : ¬ ∃ before inner, PrintsAt compiled before inner ∧ endsInWord before = true := by
      rintro ⟨before, inner, hprints, hends⟩
      rw [hapart before inner hprints] at hends
      cases hends
    refine ⟨?_, ?_⟩
    · intro hfuses
      exact hnone (exists_printsAt_of_fuses hverbatim hstretch hcompile hfuses)
    · intro root hmem expression hreaches hfuses
      exact hnone (exists_printsAt_of_reaches hreaches hfuses hmem hstretch hcompile)
  · rintro ⟨hroots, hinside⟩ before inner hprints
    rw [← Bool.not_eq_true]
    intro hends
    rcases fusesInside_of_printsAt hprints hends hverbatim hstretch hcompile with
      hfuses | ⟨root, hmem, expression, hreaches, hfuses⟩
    · exact hroots hfuses
    · exact hinside root hmem expression hreaches hfuses

/-! ## Two programs -/

def returnedCode : Text :=
  "function f() \x7b return(<a/>) \x7d".toList

def returnedTree : SyntaxTree where
  root := {
    kind := .program
    start := 0
    stop := 29
    children := [
      { kind := .other "function_declaration", start := 0, stop := 29, children := [
        tokenNode "function" 0 8,
        nameNode 9 10,
        { kind := .other "formal_parameters", start := 10, stop := 12, children := [
          tokenNode "(" 10 11, tokenNode ")" 11 12] },
        blockNode 13 29 [returnNode 15 27 (parenthesizedNode 21 27 (tagNode 22 24))]] }] }

/-- The tag of the template has become part of the word before it. -/
theorem returned_template_fuses :
    (transformTree {} (.ofText returnedCode []) returnedTree).map Transformed.code =
      .ok "function f() \x7b returnhtml\x60<a/>\x60 \x7d".toList := by
  decide +kernel

/-- A program whose only root has an expression in which a tree stands right after a word. -/
def nestedCode : Text :=
  "<a>\x7b() => \x7breturn(<b/>)\x7d\x7d</a>".toList

def nestedArrow : Node :=
  arrowNode 4 (blockNode 10 24 [returnNode 11 23 (parenthesizedNode 17 23 (tagNode 18 20))])

def nestedElement : Node :=
  elementNode 0 29 (bracesNode 3 25 nestedArrow)

def nestedProgram : SyntaxTree where
  root := { kind := .program, start := 0, stop := 29, children := [nestedElement] }

theorem nestedElement_reaches :
    Cursor.Reaches ⟨nestedElement, none⟩ ⟨nestedArrow, some (.other "\x7b")⟩ := by
  have hfound : Cursor.element? ⟨nestedElement, none⟩ = some ⟨nestedElement, none⟩ := rfl
  have hchildren : Cursor.childNodes ⟨nestedElement, none⟩ =
      [⟨bracesNode 3 25 nestedArrow, some .opening⟩] := rfl
  have hmem : ⟨bracesNode 3 25 nestedArrow, some .opening⟩ ∈
      Cursor.childNodes ⟨nestedElement, none⟩ := by
    rw [hchildren]
    exact List.mem_cons_self
  exact .own hfound (.child hmem rfl)

theorem nested_template_fuses :
    ∃ result before inner after,
      transformTree {} (.ofText nestedCode []) nestedProgram = .ok result ∧
      result.code = before ++ Template.render inner ++ after ∧ endsInWord before = true := by
  have hresult : ∃ result, transformTree {} (.ofText nestedCode []) nestedProgram = .ok result :=
    exists_ok_of_isOk (by decide +kernel)
  obtain ⟨result, hresult⟩ := hresult
  have hfuses : (Source.ofText nestedCode []).Fuses 4
      (Cursor.trees ⟨nestedArrow, some (.other "\x7b")⟩) := by
    refine ⟨[], ⟨parenthesizedNode 17 23 (tagNode 18 20), some .returnWord⟩, [],
      "() => \x7breturn".toList, rfl, ?_, by decide⟩
    rfl
  obtain ⟨parts, compiled, -, -, -, hprinted, hapart⟩ := templates_stand_apart_iff {} nestedCode []
    nestedProgram result ⟨by decide, by decide, by decide⟩ hresult
  have hword : ∃ before inner, PrintsAt compiled before inner ∧ endsInWord before = true := by
    by_contra hnone
    have hall : ∀ before inner, PrintsAt compiled before inner → endsInWord before = false := by
      intro before inner hprints
      rw [← Bool.not_eq_true]
      exact fun hends => hnone ⟨before, inner, hprints, hends⟩
    exact (hapart.mp hall).2 ⟨nestedElement, none⟩ List.mem_cons_self _ nestedElement_reaches hfuses
  obtain ⟨before, inner, hprints, hends⟩ := hword
  obtain ⟨after, hafter⟩ := hprinted before inner hprints
  exact ⟨result, before, inner, after, hresult, hafter, hends⟩

end TaggedMarkup
