import TaggedMarkup.Proofs.Document.Opening
import TaggedMarkup.Proofs.Document.Splice
import TaggedMarkup.Proofs.Element.Items
import TaggedMarkup.Proofs.Source.Expression

/-!
# The layout of new code

A transformed program is laid out as the code of an expression is: the code
between the trees, and in the place of each tree its printed template.  In a
program this code stays as it is, while in an expression it is unwrapped.
`Source.Becomes` covers both, for a whole program or expression and for the
part of it before or after a tree.
-/

namespace TaggedMarkup

/-- The code between two roots of a program stays as it is. -/
def verbatim (_follows _unwraps : Bool) (text : Text) : Text :=
  text

/-! ## Compiled parts -/

section Parts

variable {settings : Settings}

theorem renderParts_append (first second : List SourcePart) :
    renderParts (first ++ second) = renderParts first ++ renderParts second := by
  induction first with
  | nil => simp [renderParts]
  | cons part first ih => simp [renderParts, ih]

theorem compileParts_append_of_ok {before after : List Part} {first second : List SourcePart}
    (hfirst : compileParts settings before = .ok first)
    (hsecond : compileParts settings after = .ok second) :
    compileParts settings (before ++ after) = .ok (first ++ second) := by
  induction before generalizing first with
  | nil =>
      rw [compileParts, Except.ok.injEq] at hfirst
      rw [← hfirst]
      exact hsecond
  | cons part before ih =>
      obtain ⟨compiled, others, hpart, hothers, rfl⟩ := compileParts_cons hfirst
      rw [List.cons_append, compileParts, hpart, ih hothers]
      rfl

theorem compileParts_tree {tree : Tree} {template : Template} {parts : List Part}
    {compiled : List SourcePart} (htree : compile settings tree = .ok template)
    (hparts : compileParts settings parts = .ok compiled) :
    compileParts settings (.tree tree :: parts) = .ok (.template template :: compiled) := by
  rw [compileParts, compilePart, htree, hparts]
  rfl

theorem compileParts_codeParts (settings : Settings) (text : Text) :
    ∃ compiled, compileParts settings (Source.codeParts text) = .ok compiled ∧
      renderParts compiled = text := by
  cases text with
  | nil => exact ⟨[], by simp [Source.codeParts, compileParts], by simp [renderParts]⟩
  | cons c text =>
      refine ⟨[.code (c :: text)], ?_, by simp [renderParts, SourcePart.render]⟩
      simp [Source.codeParts, compileParts, compilePart, bind, Except.bind, pure, Except.pure]

end Parts

/-! ## Programs -/

section Program

variable {settings : Settings} {code file : Text} {tree : SyntaxTree}

/-- A program is transformed only if all its roots are compiled and replaced. -/
theorem transformTree_replaces {result : Transformed}
    (h : transformTree settings (.ofText code file) tree = .ok result) :
    ∃ replacements : List (Replacement Cursor),
      replacements.map Replacement.root = (Document.parsed code file tree).roots ∧
      (∀ replacement ∈ replacements,
        ((Document.parsed code file tree).read replacement.root >>= compile settings) =
          .ok replacement.template) ∧
      result.templates = replacements.length ∧
      (Document.host.after (.parsed code file tree) replacements).render = .ok result.code := by
  have hreadable : tree.hasFault = false := by
    rw [Bool.eq_false_iff]
    intro hfault
    rw [transformTree, Document.open?_eq, if_pos hfault] at h
    cases h
  rw [transformTree, open?_readable hreadable] at h
  simp only [Document.transform_eq, Progress.outcome] at h
  cases hfailure : (compileRoots settings (Document.parsed code file tree).read
      (Document.parsed code file tree).roots).failure with
  | some failure =>
      rw [hfailure] at h
      cases h
  | none =>
      obtain ⟨replacements, hcompile, hsame, hcompiled⟩ :=
        compileRoots_of_ok (compiled_of_no_failure hfailure)
      simp only [hcompile, Nat.zero_add] at h
      obtain ⟨text, hrender, hresult⟩ := exists_of_bind_eq_ok h
      cases hresult
      exact ⟨replacements, hsame, hcompiled, rfl, hrender⟩

theorem transformTree_eq_ok (htree : tree.ParsedFrom code) {result : Transformed}
    (h : transformTree settings (.ofText code file) tree = .ok result) :
    ∃ replacements : List (Replacement Cursor),
      replacements.map Replacement.root = (Document.parsed code file tree).roots ∧
      (∀ replacement ∈ replacements,
        ((Document.parsed code file tree).read replacement.root >>= compile settings) =
          .ok replacement.template) ∧
      Document.splice (.ofText code file) 0 (replacements.map Replacement.edit) =
        .ok result.code := by
  obtain ⟨replacements, hsame, hcompiled, -, hrender⟩ := transformTree_replaces h
  rw [render_replacements htree hsame] at hrender
  exact ⟨replacements, hsame, hcompiled, hrender⟩

theorem read_eq_ok {document : Document} {root : Cursor} {inner : Tree}
    (h : document.read root = .ok inner) :
    ∃ found, root.element? = some found ∧ document.source.readElement found = .ok inner := by
  rw [Document.read] at h
  cases hfound : root.element? with
  | none =>
      rw [hfound] at h
      cases h
  | some found =>
      rw [hfound] at h
      exact ⟨found, rfl, h⟩

theorem splice_cons {source : Source} {start : Nat} {edit : Edit} {edits : List Edit}
    {text printed : Text} (hprint : edit.template.print? = some printed)
    (h : Document.splice source start (edit :: edits) = .ok text) :
    ∃ before after, source.slice start edit.start = .ok before ∧
      Document.splice source edit.stop edits = .ok after ∧ text = before ++ printed ++ after := by
  rw [Document.splice] at h
  cases hslice : source.slice start edit.start with
  | error failure =>
      rw [hslice] at h
      cases h
  | ok before =>
      cases hrest : Document.splice source edit.stop edits with
      | error failure =>
          rw [hslice, hprint, hrest] at h
          cases h
      | ok after =>
          rw [hslice, hprint, hrest] at h
          cases h
          exact ⟨before, after, rfl, rfl, rfl⟩

/-- What a range of a program becomes: its code, changed as `unwrap` says, with printed templates
in the place of the trees in it. -/
def Source.Becomes (source : Source) (settings : Settings) (unwrap : Bool → Bool → Text → Text)
    (unwraps : Bool) (stop start : Nat) (follows : Bool) (trees : List Cursor) (text : Text) :
    Prop :=
  ∃ parts compiled, source.Stretch unwrap unwraps stop start follows trees parts ∧
    compileParts settings parts = .ok compiled ∧ text = renderParts compiled

theorem becomes_of_splice {document : Document} {replacements : List (Replacement Cursor)}
    {start : Nat} {text : Text} (follows : Bool)
    (hcompiled : ∀ replacement ∈ replacements,
      (document.read replacement.root >>= compile settings) = .ok replacement.template)
    (h : Document.splice document.source start (replacements.map Replacement.edit) = .ok text) :
    document.source.Becomes settings verbatim false document.source.bytes.length start follows
      (replacements.map Replacement.root) text := by
  induction replacements generalizing start text follows with
  | nil =>
      obtain ⟨compiled, hcode, hrender⟩ := compileParts_codeParts settings text
      exact ⟨_, compiled, .code h, hcode, hrender.symm⟩
  | cons replacement replacements ih =>
      obtain ⟨inner, hread, hcompile⟩ :=
        exists_of_bind_eq_ok (hcompiled replacement List.mem_cons_self)
      obtain ⟨found, hfound, hinner⟩ := read_eq_ok hread
      obtain ⟨before, after, hbefore, hafter, rfl⟩ :=
        splice_cons (print?_of_compile hcompile) h
      obtain ⟨parts, compiled, hparts, hrest, rfl⟩ :=
        ih true (fun other hmem => hcompiled other (List.mem_cons_of_mem replacement hmem)) hafter
      obtain ⟨front, hfront, hrender⟩ := compileParts_codeParts settings before
      refine ⟨_, front ++ .template replacement.template :: compiled,
        .tree hbefore hfound hinner hparts,
        compileParts_append_of_ok hfront (compileParts_tree hcompile hrest), ?_⟩
      rw [renderParts_append, renderParts, SourcePart.render, hrender, Replacement.edit_template,
        List.append_assoc]

/-- A transformed program is its code with printed templates in the place of the roots. -/
theorem becomes_of_transformTree (htree : tree.ParsedFrom code) {result : Transformed}
    (h : transformTree settings (.ofText code file) tree = .ok result) :
    (Source.ofText code file).Becomes settings verbatim false (Utf8.encode code).length 0 false
      (Cursor.trees ⟨tree.root, none⟩) result.code := by
  obtain ⟨replacements, hroots, hcompiled, hsplice⟩ := transformTree_eq_ok htree h
  have hbecomes := becomes_of_splice false hcompiled hsplice
  rw [hroots] at hbecomes
  exact hbecomes

/-- The text of a hole is the code of the expression with printed templates in the place of its
trees. -/
theorem becomes_of_compileExpression {source : Source} {cursor : Cursor} {expression : Expression}
    {hole : Hole} (hread : source.readExpression cursor = .ok expression)
    (hcompile : compileExpression settings expression = .ok hole) :
    source.Becomes settings unwrapGap false cursor.node.stop cursor.node.start false cursor.trees
      hole.render :=
  ⟨expression.parts, hole.parts, Source.stretch_of_readExpression hread,
    compileParts_parts hcompile, hole.render_eq⟩

end Program

/-! ## Before and after a tree -/

section Becomes

variable {source : Source} {settings : Settings} {unwrap : Bool → Bool → Text → Text}
  {unwraps follows : Bool} {stop start : Nat}

/-- The template of a cursor at a tree. -/
def Source.CompilesTo (source : Source) (settings : Settings) (cursor : Cursor)
    (template : Template) : Prop :=
  ∃ found tree, cursor.element? = some found ∧ source.readElement found = .ok tree ∧
    compile settings tree = .ok template

theorem Source.CompilesTo.unique {cursor : Cursor} {first second : Template}
    (hfirst : source.CompilesTo settings cursor first)
    (hsecond : source.CompilesTo settings cursor second) : first = second := by
  obtain ⟨found, tree, hfound, htree, hcompile⟩ := hfirst
  obtain ⟨other, inner, hother, hinner, hcompile'⟩ := hsecond
  rw [hfound, Option.some.injEq] at hother
  subst hother
  rw [htree, Except.ok.injEq] at hinner
  subst hinner
  rw [hcompile, Except.ok.injEq] at hcompile'
  exact hcompile'

theorem Source.Stretch.unique {trees : List Cursor} {first second : List Part}
    (hfirst : source.Stretch unwrap unwraps stop start follows trees first)
    (hsecond : source.Stretch unwrap unwraps stop start follows trees second) :
    first = second := by
  induction hfirst generalizing second with
  | code hslice =>
      cases hsecond with
      | code hslice' =>
          rw [hslice, Except.ok.injEq] at hslice'
          rw [hslice']
  | tree hslice hfound htree _ ih =>
      cases hsecond with
      | tree hslice' hfound' htree' hrest =>
          rw [hslice, Except.ok.injEq] at hslice'
          rw [hfound, Option.some.injEq] at hfound'
          subst hfound'
          rw [htree, Except.ok.injEq] at htree'
          rw [hslice', htree', ih hrest]

theorem Source.Becomes.unique {trees : List Cursor} {first second : Text}
    (hfirst : source.Becomes settings unwrap unwraps stop start follows trees first)
    (hsecond : source.Becomes settings unwrap unwraps stop start follows trees second) :
    first = second := by
  obtain ⟨parts, compiled, hparts, hcompile, rfl⟩ := hfirst
  obtain ⟨others, compiled', hothers, hcompile', rfl⟩ := hsecond
  rw [hparts.unique hothers, hcompile', Except.ok.injEq] at hcompile
  rw [hcompile]

/-- A range with a tree in it becomes what stands before the tree, the template, and what stands
after it. -/
theorem Source.Becomes.split {earlier later : List Cursor} {cursor : Cursor} {text : Text}
    (h : source.Becomes settings unwrap unwraps stop start follows
      (earlier ++ cursor :: later) text) :
    ∃ before template after,
      source.Becomes settings unwrap cursor.mayUnwrap cursor.node.start start follows earlier
        before ∧
      source.CompilesTo settings cursor template ∧
      source.Becomes settings unwrap unwraps stop cursor.node.stop true later after ∧
      text = before ++ template.render ++ after := by
  obtain ⟨parts, compiled, hparts, hcompile, rfl⟩ := h
  obtain ⟨front, found, tree, rest, hfront, hfound, htree, hrest, rfl⟩ := hparts.split
  obtain ⟨first, others, hfirst, hothers, rfl⟩ := compileParts_append hcompile
  obtain ⟨part, second, hpart, hsecond, rfl⟩ := compileParts_cons hothers
  obtain ⟨template, htemplate, rfl⟩ := compilePart_tree hpart
  refine ⟨renderParts first, template, renderParts second, ⟨front, first, hfront, hfirst, rfl⟩,
    ⟨found, tree, hfound, htree, htemplate⟩, ⟨rest, second, hrest, hsecond, rfl⟩, ?_⟩
  rw [renderParts_append, renderParts, SourcePart.render, List.append_assoc]

end Becomes

end TaggedMarkup
