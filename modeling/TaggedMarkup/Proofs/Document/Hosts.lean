import TaggedMarkup.Transform

/-!
# Transforming a host

The roots of a host are replaced one after the other.  Each is read in the
program as the replacements before it have left it, its tree is compiled, and
the template takes its place.  The first root that cannot be read or compiled
ends the work: what was replaced before stays replaced, and the host is not
touched again.
-/

namespace TaggedMarkup

/-! ## One root -/

section Root

variable {α : Type} {settings : Settings} {read : α → Except Failure Tree}

theorem compileRoot_eq_ok {root : α} {tree : Tree} {template : Template}
    (hread : read root = .ok tree) (hcompile : compile settings tree = .ok template) :
    compileRoot settings read root = .ok ⟨root, tree.position, template⟩ := by
  simp only [compileRoot, hread, bind, Except.bind, hcompile]
  rfl

theorem compileRoot_of_error {root : α} {failure : Failure}
    (h : (read root >>= compile settings) = .error failure) :
    compileRoot settings read root = .error failure := by
  cases htree : read root with
  | error other =>
      rw [htree] at h
      cases h
      rw [compileRoot, htree]
      rfl
  | ok tree =>
      rw [htree] at h
      have hcompile : compile settings tree = .error failure := h
      simp only [compileRoot, htree, bind, Except.bind, hcompile]

end Root

/-! ## All roots -/

namespace Host

variable {σ α : Type} (host : Host σ α) (settings : Settings)

/-- The program after some replacements. -/
def after (program : σ) (replacements : List (Replacement α)) : σ :=
  replacements.foldl
    (fun program replacement => host.replace program replacement.root replacement.template) program

/-- Every root, read in the program that the replacements before it have left, is compiled to the
template that replaces it. -/
inductive Compiles : σ → List (Replacement α) → Prop
  | nil (program : σ) : Compiles program []
  | cons {program : σ} {root : α} {tree : Tree} {template : Template}
      {replacements : List (Replacement α)} (hread : host.read program root = .ok tree)
      (hcompile : compile settings tree = .ok template)
      (h : Compiles (host.replace program root template) replacements) :
      Compiles program (⟨root, tree.position, template⟩ :: replacements)

/-- The work after some replacements: one record for each. -/
def worked (program : σ) (replacements : List (Replacement α)) : Work σ :=
  ⟨host.after program replacements, replacements.map Replacement.record, replacements.length⟩

theorem foldl_apply (work : Work σ) (replacements : List (Replacement α)) :
    replacements.foldl host.apply work =
      ⟨host.after work.program replacements,
        work.records ++ replacements.map Replacement.record,
        work.count + replacements.length⟩ := by
  induction replacements generalizing work with
  | nil => simp [after]
  | cons replacement replacements ih =>
      rw [List.foldl_cons, ih]
      simp only [apply, after, List.foldl_cons, List.map_cons, List.length_cons,
        List.append_assoc, List.singleton_append]
      congr 1
      omega

variable {host settings}

/-- Roots that can be compiled are replaced, and the work goes on with those after them. -/
theorem replaceRoots_append {work : Work σ} {replacements : List (Replacement α)}
    (h : host.Compiles settings work.program replacements) (roots : List α) :
    host.replaceRoots settings (replacements.map Replacement.root ++ roots) work =
      host.replaceRoots settings roots (replacements.foldl host.apply work) := by
  induction replacements generalizing work with
  | nil => rfl
  | cons replacement replacements ih =>
      cases h with
      | cons hread hcompile h =>
          rw [List.map_cons, List.cons_append, replaceRoots, compileRoot_eq_ok hread hcompile]
          exact ih h

theorem transform_of_compiles {program : σ} {replacements : List (Replacement α)}
    (hroots : host.roots program = replacements.map Replacement.root)
    (h : host.Compiles settings program replacements) :
    host.transform settings program =
      (host.worked program replacements, .ok replacements.length) := by
  have hrun : host.replaceRoots settings (replacements.map Replacement.root ++ [])
      { program } = _ := replaceRoots_append h []
  rw [List.append_nil, foldl_apply] at hrun
  rw [transform, hroots, hrun, replaceRoots]
  simp [worked]

theorem transform_of_error {program : σ} {replacements : List (Replacement α)} {root : α}
    {roots : List α} {failure : Failure}
    (hroots : host.roots program = replacements.map Replacement.root ++ root :: roots)
    (h : host.Compiles settings program replacements)
    (hroot : (host.read (host.after program replacements) root >>= compile settings) =
      .error failure) :
    host.transform settings program = (host.worked program replacements, .error failure) := by
  have hrun : host.replaceRoots settings
      (replacements.map Replacement.root ++ root :: roots) { program } = _ :=
    replaceRoots_append h (root :: roots)
  rw [foldl_apply, replaceRoots, compileRoot_of_error hroot] at hrun
  rw [transform, hroots, hrun]
  simp [worked]

/-- Either all roots can be compiled in their turn, or one of them is the first that cannot. -/
theorem exists_compiles (roots : List α) (program : σ) :
    ∃ replacements, host.Compiles settings program replacements ∧
      (roots = replacements.map Replacement.root ∨
        ∃ root rest failure, roots = replacements.map Replacement.root ++ root :: rest ∧
          (host.read (host.after program replacements) root >>= compile settings) =
            .error failure) := by
  induction roots generalizing program with
  | nil => exact ⟨[], .nil program, .inl rfl⟩
  | cons root roots ih =>
      cases hroot : host.read program root >>= compile settings with
      | error failure => exact ⟨[], .nil program, .inr ⟨root, roots, failure, rfl, hroot⟩⟩
      | ok template =>
          obtain ⟨tree, hread, hcompile⟩ := exists_of_bind_eq_ok hroot
          obtain ⟨replacements, hrest, hends⟩ := ih (host.replace program root template)
          refine ⟨⟨root, tree.position, template⟩ :: replacements, .cons hread hcompile hrest, ?_⟩
          rcases hends with rfl | ⟨next, rest, failure, rfl, hnext⟩
          · exact .inl rfl
          · exact .inr ⟨next, rest, failure, rfl, hnext⟩

/-- The roots before the first that fails are replaced, each with a record, and nothing else is done
to the host; the work ends in that failure.  If none fails, all roots are replaced in this way, and
the work ends in their number. -/
theorem transform_replaces_until_failure (host : Host σ α) (settings : Settings) (program : σ) :
    (∀ replacements root rest failure,
      host.roots program = replacements.map Replacement.root ++ root :: rest →
      host.Compiles settings program replacements →
      (host.read (host.after program replacements) root >>= compile settings) = .error failure →
      host.transform settings program = (host.worked program replacements, .error failure)) ∧
    (∀ replacements, host.roots program = replacements.map Replacement.root →
      host.Compiles settings program replacements →
      host.transform settings program =
        (host.worked program replacements, .ok (host.roots program).length)) ∧
    ∃ replacements, host.Compiles settings program replacements ∧
      (host.roots program = replacements.map Replacement.root ∨
        ∃ root rest failure,
          host.roots program = replacements.map Replacement.root ++ root :: rest ∧
          (host.read (host.after program replacements) root >>= compile settings) =
            .error failure) := by
  refine ⟨?_, ?_, exists_compiles (host.roots program) program⟩
  · intro replacements root rest failure hroots h hroot
    exact transform_of_error hroots h hroot
  · intro replacements hroots h
    rw [transform_of_compiles hroots h, hroots, List.length_map]

end Host

/-- A host that lists its replacements and can be read only as long as there are few of them. -/
def shortHost (limit : Nat) (trees : List Tree) : Host (List (Tree × Template)) Tree where
  roots _ := trees
  read made tree := if made.length < limit then .ok tree else .error .missingPart
  replace made tree template := made ++ [(tree, template)]

def loneTree : Tree :=
  .element { name := .static ['a'], position := ⟨1, 1⟩ }

def loneTemplate : Template :=
  ⟨['h', 't', 'm', 'l'], [['<', 'a', '/', '>']], []⟩

theorem shortHost_stops :
    (shortHost 1 [loneTree, loneTree, loneTree]).transform {} [] =
      (⟨[(loneTree, loneTemplate)], [.compiled ⟨1, 1⟩ 1], 1⟩, .error .missingPart) ∧
    (shortHost 2 [loneTree, loneTree]).transform {} [] =
      (⟨[(loneTree, loneTemplate), (loneTree, loneTemplate)],
        [.compiled ⟨1, 1⟩ 1, .compiled ⟨1, 1⟩ 1], 2⟩, .ok 2) := by
  have hcompile : compile {} loneTree = .ok loneTemplate := rfl
  constructor
  · exact (Host.transform_replaces_until_failure (shortHost 1 [loneTree, loneTree, loneTree])
      {} []).1 [⟨loneTree, ⟨1, 1⟩, loneTemplate⟩] loneTree [loneTree] .missingPart rfl
      (.cons rfl hcompile (.nil _)) rfl
  · exact (Host.transform_replaces_until_failure (shortHost 2 [loneTree, loneTree]) {} []).2.1
      [⟨loneTree, ⟨1, 1⟩, loneTemplate⟩, ⟨loneTree, ⟨1, 1⟩, loneTemplate⟩] rfl
      (.cons rfl hcompile (.cons rfl hcompile (.nil _)))

end TaggedMarkup
