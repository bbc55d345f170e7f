import TaggedMarkup.Proofs.Source.Stopping

/-!
# Every root is read or refused

A parser promises that nodes begin and end between characters and have the parts
that their kind always has.  Then nothing stops the reading of a root but a
construct in it that no template can represent, wherever in the expressions of
the root it stands.
-/

namespace TaggedMarkup

namespace Source

/-- The failure is the report of a construct inside the node that no template can represent. -/
def Reports (source : Source) (top : Node) (failure : Failure) : Prop :=
  ∃ problem cursor, source.Refuses problem cursor ∧ cursor.node.Inside top ∧
    failure = source.report problem cursor.node.start

section Shape

variable {code : Text} {top : Node} (haligned : top.All (Node.Aligned code))

include haligned

theorem isBoundary_of_edge {offset : Nat} (h : top.Edge offset) : Utf8.IsBoundary code offset := by
  obtain ⟨node, hinside, hoffset⟩ := h
  obtain ⟨hstart, hstop⟩ := (Node.all_iff.mp (hinside.all haligned)).1
  rcases hoffset with rfl | rfl
  · exact hstart
  · exact hstop

theorem textOf_ne_nil {node : Node} (file : Text) (hinside : node.Inside top)
    (h : node.start < node.stop) : (ofText code file).textOf node ≠ .ok [] := by
  intro htext
  have hstop := (isBoundary_of_edge haligned hinside.edge_stop).le_length
  have hbytes := congrArg List.length (slice_eq_ok htext)
  simp only [ofText, Utf8.encode_nil, List.length_nil, List.length_drop, List.length_take]
    at hbytes
  omega

theorem stopsIn_reports (file : Text) (hcomplete : top.All Node.Complete) :
    (ofText code file).StopsIn top ((ofText code file).Reports top) where
  report hrefuses hinside := ⟨_, _, hrefuses, hinside, rfl⟩
  slice hstart hstop := by
    obtain ⟨part, hslice, -⟩ := slice_ofText file (isBoundary_of_edge haligned hstart)
      (isBoundary_of_edge haligned hstop)
    rw [hslice]
    trivial
  incomplete hinside hparts := absurd (Node.all_iff.mp (hinside.all hcomplete)).1 hparts
  empty hinside hrange htext := absurd htext (textOf_ne_nil haligned file hinside hrange)

end Shape

end Source

/-- A root of a program whose nodes are aligned and complete is read, or reading it reports a
construct in the root that no template can represent, at its place; it fails in no other way. -/
theorem root_read_or_refused {document : Document} {code file : Text}
    (hsource : document.source = .ofText code file)
    (haligned : document.tree.root.All (Node.Aligned code))
    (hcomplete : document.tree.root.All Node.Complete) {root : Cursor}
    (hroot : root ∈ document.roots) :
    (∃ tree, document.read root = .ok tree) ∨
      ∃ problem cursor, document.source.Refuses problem cursor ∧
        cursor.node.Inside root.node ∧ problem.category = .unsupported ∧
        document.read root = .error (.reported
          (.located problem file (document.source.position cursor.node.start))) := by
  have hsome : root.element?.isSome = true :=
    @Cursor.isSome_element?_of_mem_trees ⟨document.tree.root, none⟩ root hroot
  have hstops : document.source.StopsIn root.node (document.source.Reports root.node) := by
    rw [hsource]
    exact Source.stopsIn_reports (Node.All.of_mem_trees none _ haligned root hroot) file
      (Node.All.of_mem_trees none _ hcomplete root hroot)
  have hsettles := Document.read_settles hstops fun hnone => by simp [hnone] at hsome
  cases hread : document.read root with
  | ok tree => exact .inl ⟨tree, rfl⟩
  | error failure =>
      rw [hread] at hsettles
      obtain ⟨problem, cursor, hrefuses, hinside, rfl⟩ := hsettles
      refine .inr ⟨problem, cursor, hrefuses, hinside, hrefuses.category_eq, ?_⟩
      rw [Source.report, hsource]
      rfl

/-- An attribute and a tag of two names, in an element between parentheses and braces. -/
def namespacedCode : Text :=
  "<a>\x7b(<b:c d=\"e\"/>)\x7d</a>".toList

def namespacedRoot : Node :=
  elementNode 0 23 (bracesNode 3 19 (parenthesizedNode 4 18 {
    kind := .selfClosing
    start := 5
    stop := 17
    children := [
      tokenNode "<" 5 6,
      { kind := .other "jsx_namespace_name", start := 6, stop := 9, field := some .name },
      { kind := .attr, start := 10, stop := 15, children := [
        nameNode 10 11,
        tokenNode "=" 11 12,
        { kind := .string, start := 12, stop := 15 }] },
      tokenNode "/>" 15 17] }))

def namespacedInside : Document where
  source := .ofText namespacedCode []
  tree := { root := { kind := .program, start := 0, stop := 23, children := [namespacedRoot] } }

theorem namespacedInside_refused :
    namespacedInside.tree.root.All (Node.Aligned namespacedCode) ∧
    namespacedInside.tree.root.All Node.Complete ∧
    (⟨namespacedRoot, none⟩ : Cursor) ∈ namespacedInside.roots ∧
    namespacedInside.read ⟨namespacedRoot, none⟩ =
      .error (.reported (.located (.namespacedTag ['b', ':', 'c']) [] ⟨1, 7⟩)) ∧
    ∃ problem cursor, namespacedInside.source.Refuses problem cursor ∧
      cursor.node.Inside namespacedRoot ∧
      namespacedInside.read ⟨namespacedRoot, none⟩ = .error (.reported (.located problem []
        (namespacedInside.source.position cursor.node.start))) := by
  have haligned : namespacedInside.tree.root.All (Node.Aligned namespacedCode) := by decide
  have hcomplete : namespacedInside.tree.root.All Node.Complete := by decide
  have hroot : (⟨namespacedRoot, none⟩ : Cursor) ∈ namespacedInside.roots :=
    List.mem_singleton_self _
  have hread : namespacedInside.read ⟨namespacedRoot, none⟩ =
      .error (.reported (.located (.namespacedTag ['b', ':', 'c']) [] ⟨1, 7⟩)) := by
    with_unfolding_all rfl
  refine ⟨haligned, hcomplete, hroot, hread, ?_⟩
  rcases root_read_or_refused rfl haligned hcomplete hroot with
    ⟨tree, htree⟩ | ⟨problem, cursor, hrefuses, hinside, -, hreport⟩
  · rw [hread] at htree
    cases htree
  · exact ⟨problem, cursor, hrefuses, hinside, hreport⟩

end TaggedMarkup
