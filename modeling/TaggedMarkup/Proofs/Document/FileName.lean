import TaggedMarkup.Program
import TaggedMarkup.Proofs.Document.Opening
import TaggedMarkup.Proofs.Document.Splice
import TaggedMarkup.Proofs.Element.Essential
import TaggedMarkup.Proofs.Files.Writing
import TaggedMarkup.Proofs.Source.Steps

/-!
# Names of files

The name of its file appears in the diagnostics of a program and nowhere else.
So a program is transformed the same under every name, and where it fails under
one it fails under all, for the same reason.
-/

namespace TaggedMarkup

namespace Source

section Reading

variable {bytes : List UInt8} {file other : Text} {bound : Nat} {cursor : Cursor}

theorem position_renamed (file other : Text) :
    position ⟨bytes, file⟩ = position ⟨bytes, other⟩ := rfl

theorem slice_renamed (start stop : Nat) :
    Agree Eq (slice ⟨bytes, file⟩ start stop) (slice ⟨bytes, other⟩ start stop) :=
  Agree.refl (slice ⟨bytes, file⟩ start stop)

theorem readGap_renamed (start stop : Nat) :
    Agree Eq (readGap ⟨bytes, file⟩ start stop) (readGap ⟨bytes, other⟩ start stop) :=
  Agree.refl (readGap ⟨bytes, file⟩ start stop)

theorem readName_renamed :
    Agree Eq (readName ⟨bytes, file⟩ cursor) (readName ⟨bytes, other⟩ cursor) := by
  unfold readName
  cases cursor.child? .name with
  | none => exact .error rfl
  | some name =>
      apply (slice_renamed _ _).andThen
      intro text
      rw [position_renamed file other]
      cases TagName.classify text _ with
      | ok classified => exact .ok rfl
      | error problem => exact .error rfl

/-- Elements of fewer nodes than the bound are read alike under both names. -/
def ElementsRenamed (bytes : List UInt8) (file other : Text) (bound : Nat) : Prop :=
  ∀ cursor : Cursor, cursor.size < bound →
    Agree Eq (readElement ⟨bytes, file⟩ cursor) (readElement ⟨bytes, other⟩ cursor)

theorem readParts_renamed (helements : ElementsRenamed bytes file other bound)
    {start stop : Nat} {follows : Bool} {trees : List Cursor}
    (h : ∀ tree ∈ trees, tree.size < bound) :
    Agree Eq (readParts ⟨bytes, file⟩ stop start follows trees)
      (readParts ⟨bytes, other⟩ stop start follows trees) := by
  induction trees generalizing start follows with
  | nil =>
      rw [readParts, readParts]
      apply (slice_renamed start stop).andThen
      intro text
      exact .refl _
  | cons tree trees ih =>
      have hsize := h tree List.mem_cons_self
      rw [readParts_cons_eq, readParts_cons_eq]
      apply (slice_renamed start tree.node.start).andThen
      intro text
      dsimp only
      cases hfound : tree.element? with
      | none => exact .error rfl
      | some found =>
          have hsmaller := Cursor.size_le_of_element? hfound
          apply (helements found (by omega)).andThen
          intro read
          apply (ih fun other hmem => h other (List.mem_cons_of_mem tree hmem)).andThen
          intro others
          exact .ok rfl

theorem readExpression_renamed (helements : ElementsRenamed bytes file other bound)
    (hsize : cursor.size < bound) :
    Agree Eq (readExpression ⟨bytes, file⟩ cursor) (readExpression ⟨bytes, other⟩ cursor) := by
  have htrees : ∀ tree ∈ cursor.trees, tree.size < bound := by
    intro tree hmem
    have hsmaller := Cursor.size_le_total hmem
    have htotal := cursor.total_trees_le
    omega
  rw [readExpression, readExpression]
  apply (readParts_renamed helements htrees).andThen
  intro parts
  exact .ok rfl

theorem content_smaller (hsize : cursor.size < bound) :
    ∀ inner ∈ cursor.content, inner.size < bound := by
  intro inner hmem
  exact Nat.lt_trans (Cursor.size_lt_of_mem_content hmem) hsize

theorem first_smaller {inner : Cursor} {rest : List Cursor} (hsize : cursor.size < bound)
    (hcontent : cursor.content = inner :: rest) : inner.size < bound :=
  content_smaller hsize inner (by rw [hcontent]; exact List.mem_cons_self)

theorem readOperand_renamed (helements : ElementsRenamed bytes file other bound)
    (hsize : cursor.size < bound) :
    Agree Eq (readOperand ⟨bytes, file⟩ cursor) (readOperand ⟨bytes, other⟩ cursor) := by
  unfold readOperand
  cases hcontent : cursor.content with
  | nil => exact .error rfl
  | cons value rest => exact readExpression_renamed helements (first_smaller hsize hcontent)

theorem readValue_renamed (helements : ElementsRenamed bytes file other bound)
    (hsize : cursor.size < bound) (name : Text) :
    Agree Eq (readValue ⟨bytes, file⟩ cursor name) (readValue ⟨bytes, other⟩ cursor name) := by
  unfold readValue
  split
  · apply (slice_renamed _ _).andThen
    intro text
    exact .refl _
  · split
    · cases hcontent : cursor.content with
      | nil => exact .ok rfl
      | cons inner rest =>
          dsimp only
          split
          · exact .error rfl
          · apply (readExpression_renamed helements (first_smaller hsize hcontent)).andThen
            intro expression
            exact .ok rfl
    · split
      · apply (helements cursor hsize).andThen
        intro tree
        exact .ok rfl
      · exact .error rfl

theorem readAttribute_renamed (helements : ElementsRenamed bytes file other bound)
    (hsize : cursor.size < bound) :
    Agree Eq (readAttribute ⟨bytes, file⟩ cursor) (readAttribute ⟨bytes, other⟩ cursor) := by
  rw [readAttribute_eq, readAttribute_eq]
  cases hcontent : cursor.content with
  | nil => exact .error rfl
  | cons label rest =>
      cases rest with
      | nil =>
          apply (slice_renamed _ _).andThen
          intro name
          exact .refl _
      | cons value rest =>
          apply (slice_renamed _ _).andThen
          intro name
          have hvalue := content_smaller hsize value (by simp [hcontent])
          exact readValue_renamed helements hvalue name

theorem readSpread_renamed (helements : ElementsRenamed bytes file other bound)
    (hsize : cursor.size < bound) :
    Agree Eq (readSpread ⟨bytes, file⟩ cursor) (readSpread ⟨bytes, other⟩ cursor) := by
  rw [readSpread_eq, readSpread_eq]
  cases hcontent : cursor.content with
  | nil => exact .error rfl
  | cons inner rest =>
      dsimp only
      split
      · apply (readOperand_renamed helements (first_smaller hsize hcontent)).andThen
        intro expression
        exact .ok rfl
      · exact .error rfl

theorem readAttributes_renamed (helements : ElementsRenamed bytes file other bound)
    {cursors : List Cursor} (h : ∀ cursor ∈ cursors, cursor.size < bound) :
    Agree Eq (readAttributes ⟨bytes, file⟩ cursors) (readAttributes ⟨bytes, other⟩ cursors) := by
  induction cursors with
  | nil =>
      rw [readAttributes, readAttributes]
      exact .ok rfl
  | cons cursor cursors ih =>
      have hsize := h cursor List.mem_cons_self
      have hrest := ih fun other hmem => h other (List.mem_cons_of_mem cursor hmem)
      rw [readAttributes, readAttributes]
      split
      · exact hrest
      · split
        · apply (readAttribute_renamed helements hsize).andThen
          intro first
          exact hrest.andThen fun others => .ok rfl
        · split
          · apply (readSpread_renamed helements hsize).andThen
            intro first
            exact hrest.andThen fun others => .ok rfl
          · exact hrest

theorem readChild_renamed (helements : ElementsRenamed bytes file other bound)
    (hsize : cursor.size < bound) :
    Agree Eq (readChild ⟨bytes, file⟩ cursor) (readChild ⟨bytes, other⟩ cursor) := by
  rw [readChild_eq, readChild_eq]
  split
  · cases hcontent : cursor.content with
    | nil => exact .ok rfl
    | cons inner rest =>
        have hinner := first_smaller hsize hcontent
        dsimp only
        split
        · exact (readOperand_renamed helements hinner).andThen fun expression => .ok rfl
        · exact (readExpression_renamed helements hinner).andThen fun expression => .ok rfl
  · apply (helements cursor hsize).andThen
    intro tree
    cases tree <;> exact .ok rfl

theorem readChildren_renamed (helements : ElementsRenamed bytes file other bound)
    {low high start : Nat} {cursors : List Cursor} (h : ∀ cursor ∈ cursors, cursor.size < bound) :
    Agree Eq (readChildren ⟨bytes, file⟩ low high start cursors)
      (readChildren ⟨bytes, other⟩ low high start cursors) := by
  induction cursors generalizing start with
  | nil =>
      rw [readChildren, readChildren]
      exact readGap_renamed start high
  | cons cursor cursors ih =>
      have hsize := h cursor List.mem_cons_self
      have hrest : ∀ start, Agree Eq (readChildren ⟨bytes, file⟩ low high start cursors)
          (readChildren ⟨bytes, other⟩ low high start cursors) := fun start =>
        ih fun other hmem => h other (List.mem_cons_of_mem cursor hmem)
      rw [readChildren, readChildren]
      split
      · apply (readGap_renamed start cursor.node.start).andThen
        intro gap
        apply (readChild_renamed helements hsize).andThen
        intro here
        exact (hrest cursor.node.stop).andThen fun others => .ok rfl
      · exact hrest start

theorem readElement_renamed (helements : ElementsRenamed bytes file other bound)
    (hsize : cursor.size < bound + 1) :
    Agree Eq (readElement ⟨bytes, file⟩ cursor) (readElement ⟨bytes, other⟩ cursor) := by
  have hchildren : ∀ child ∈ cursor.children, child.size < bound := by
    intro child hmem
    have hsmaller := Cursor.size_lt_of_mem_children hmem
    omega
  rw [readElement_eq, readElement_eq]
  split
  · apply readName_renamed.andThen
    intro name
    exact (readAttributes_renamed helements hchildren).andThen fun attributes => .ok rfl
  · cases hopening : cursor.openTag? with
    | none => exact .error rfl
    | some opening =>
        cases cursor.closeTag? with
        | none => exact .error rfl
        | some closing =>
            have htag := hchildren opening (Cursor.mem_children_of_openTag? hopening)
            have hitems : ∀ child ∈ opening.children, child.size < bound := by
              intro child hmem
              have hsmaller := Cursor.size_lt_of_mem_children hmem
              omega
            apply (readChildren_renamed helements hchildren).andThen
            intro children
            split
            · exact .ok rfl
            · apply readName_renamed.andThen
              intro name
              exact (readAttributes_renamed helements hitems).andThen fun attributes => .ok rfl

theorem elementsRenamed (bytes : List UInt8) (file other : Text) (bound : Nat) :
    ElementsRenamed bytes file other bound := by
  -- the elements that an element is read with are below it, where there are fewer nodes
  induction bound with
  | zero =>
      intro cursor hsize
      exact absurd hsize (Nat.not_lt_zero _)
  | succ bound ih =>
      intro cursor hsize
      exact readElement_renamed ih hsize

end Reading

end Source

/-! ## Programs -/

section Programs

variable (bytes : List UInt8) (file other : Text) (settings : Settings)

theorem read_renamed (tree : SyntaxTree) (root : Cursor) :
    Agree Eq (Document.read ⟨⟨bytes, file⟩, tree, []⟩ root)
      (Document.read ⟨⟨bytes, other⟩, tree, []⟩ root) := by
  unfold Document.read
  cases root.element? with
  | none => exact .error rfl
  | some element =>
      exact Source.elementsRenamed bytes file other (element.size + 1) element
        (Nat.lt_succ_self _)

theorem compileRoots_agree {α : Type} {first second : α → Except Failure Tree}
    (hread : ∀ root, Agree Eq (first root) (second root)) (roots : List α) :
    (compileRoots settings first roots).replacements =
        (compileRoots settings second roots).replacements ∧
      (compileRoots settings first roots).failure.map Failure.bare =
        (compileRoots settings second roots).failure.map Failure.bare := by
  induction roots with
  | nil => exact ⟨rfl, rfl⟩
  | cons root roots ih =>
      have hroot : Agree Eq (compileRoot settings first root) (compileRoot settings second root) :=
        (hread root).andThen fun tree => Agree.refl _
      rw [compileRoots, compileRoots]
      rcases hroot.same_or_fail with ⟨replacement, hfirst, hsecond⟩ |
        ⟨failure, stopped, hfirst, hsecond, hbare⟩
      · rw [hfirst, hsecond]
        exact ⟨congrArg (replacement :: ·) ih.1, ih.2⟩
      · rw [hfirst, hsecond]
        exact ⟨rfl, congrArg some hbare⟩

theorem splice_renamed (edits : List Edit) (start : Nat) :
    Document.splice ⟨bytes, file⟩ start edits = Document.splice ⟨bytes, other⟩ start edits := by
  induction edits generalizing start with
  | nil => rfl
  | cons edit edits ih =>
      rw [Document.splice, Document.splice, ih]
      rfl

theorem Failure.bare_inFile (failure : Failure) (file : Text) :
    (failure.inFile file).bare = failure.bare := by
  cases failure with
  | reported diagnostic =>
      simp only [Failure.inFile, Failure.bare, Diagnostic.inFile]
      split <;> rfl
  | _ => rfl

theorem render_renamed (tree : SyntaxTree) (replacements : List (Replacement Cursor)) :
    (Document.host.after ⟨⟨bytes, file⟩, tree, []⟩ replacements).render =
      (Document.host.after ⟨⟨bytes, other⟩, tree, []⟩ replacements).render := by
  rw [Document.after_eq, Document.after_eq]
  exact splice_renamed bytes file other _ _

/-- What is transformed has the same code and as many templates under every name. -/
theorem transformTree_renamed (tree : SyntaxTree) :
    Agree (fun first second => first.code = second.code ∧ first.templates = second.templates)
      (transformTree settings ⟨bytes, file⟩ tree) (transformTree settings ⟨bytes, other⟩ tree) := by
  have hnamed : ∀ failure stopped : Failure, failure.bare = stopped.bare →
      (failure.inFile file).bare = (stopped.inFile other).bare := by
    intro failure stopped h
    rw [Failure.bare_inFile, Failure.bare_inFile, h]
  unfold transformTree
  simp only [Document.open?_eq]
  cases tree.hasFault with
  | true =>
      cases tree.root.preorder.find? Node.isFault with
      | none => exact .error (hnamed _ _ rfl)
      | some fault => exact .error (hnamed _ _ rfl)
  | false =>
      obtain ⟨hreplacements, hfailure⟩ := compileRoots_agree settings
        (read_renamed bytes file other tree) (tree.root.trees none)
      have hrender := render_renamed bytes file other tree
      simp only [Bool.false_eq_true, if_false, Document.transform_eq, Document.roots,
        Progress.outcome, Host.worked, hreplacements, hrender]
      generalize (compileRoots settings (Document.read ⟨⟨bytes, file⟩, tree, []⟩)
        (tree.root.trees none)).failure = failure at hfailure
      generalize (compileRoots settings (Document.read ⟨⟨bytes, other⟩, tree, []⟩)
        (tree.root.trees none)).failure = stopped at hfailure
      cases failure with
      | some failure =>
          cases stopped with
          | none => cases hfailure
          | some stopped => exact .error (hnamed _ _ (Option.some.inj hfailure))
      | none =>
          cases stopped with
          | some stopped => cases hfailure
          | none => exact (Agree.refl _).andThen fun code => .ok ⟨rfl, rfl⟩

section Emit

variable {platform : Platform} {options : EmitOptions} {file other : Text} {emitted : Emitted}

theorem emit_eq_ok {code : Text} :
    emit platform options file code = .ok emitted ↔ platform.Encodable code ∧
      ∃ result, transform platform options.settings file code = .ok result ∧
        result.emit options = .ok emitted := by
  rw [emit]
  by_cases hencodable : platform.Encodable code
  · rw [Platform.encode_of_encodable hencodable]
    cases transform platform options.settings file code with
    | error failure => simp
    | ok result => simp [hencodable]
  · obtain ⟨error, herror⟩ := Platform.encode_of_not_encodable hencodable
    simp [herror, hencodable]

theorem emitBytes_eq_ok {bytes : List UInt8} :
    emitBytes platform options file bytes = .ok emitted ↔ ∃ code,
      readText bytes = .ok code ∧ emit platform options file code = .ok emitted := by
  rw [emitBytes]
  cases readText bytes with
  | error error => simp
  | ok code => simp

theorem emit_renamed {code : Text} (h : emit platform options file code = .ok emitted) :
    emit platform options other code = .ok emitted := by
  have htransform : Agree
      (fun first second => first.code = second.code ∧ first.templates = second.templates)
      (transform platform options.settings file code)
      (transform platform options.settings other code) :=
    transformTree_renamed (Utf8.encode code) file other options.settings (platform.parse code)
  rw [emit_eq_ok] at h ⊢
  obtain ⟨hencodable, result, hresult, hemit⟩ := h
  rw [hresult] at htransform
  refine ⟨hencodable, ?_⟩
  generalize transform platform options.settings other code = renamed at htransform
  cases htransform with
  | @ok _ second hsame =>
      refine ⟨second, rfl, ?_⟩
      simp only [Transformed.emit] at hemit ⊢
      rwa [← hsame.1, ← hsame.2]

theorem emitBytes_renamed {bytes : List UInt8}
    (h : emitBytes platform options file bytes = .ok emitted) :
    emitBytes platform options other bytes = .ok emitted := by
  rw [emitBytes_eq_ok] at h ⊢
  obtain ⟨code, hcode, hemit⟩ := h
  exact ⟨code, hcode, emit_renamed hemit⟩

end Emit

end Programs

end TaggedMarkup
