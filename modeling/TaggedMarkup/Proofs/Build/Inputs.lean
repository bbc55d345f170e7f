import TaggedMarkup.Proofs.Build.Run

/-!
# What a build does to its sources

A build changes nothing outside its output directory, whether it ends early or
not.  So its sources are safe wherever the output directory is not above them:
one that is inside them is refused.  An output directory above the sources is
renewed like any other, and the sources are gone before the first is visited.
-/

namespace TaggedMarkup

open FileTree (KeptOutside)

/-! ## Outside of the output directory -/

section Kept

variable (platform : Platform) (options : EmitOptions) (output : Path)

theorem buildFile_keeps (file : SourceFile) (built : Built) :
    KeptOutside output built.tree (buildFile platform options output file built).tree := by
  have hinside : output <+: output ++ file.target := List.prefix_append output file.target
  rcases buildFile_cases platform options output file built with
    ⟨emitted, made, -, hopens, -, hnext⟩ | ⟨emitted, made, error, -, hopens, -, hnext⟩ |
    ⟨error, tree, hnext, rfl | hmade, -⟩
  · rw [hnext]
    exact hopens.keptOutside hinside _
  · rw [hnext]
    exact hopens.keptOutside hinside _
  · rw [hnext]
    exact .refl output built.tree
  · rw [hnext]
    intro other entry _ hentry
    exact FileTree.makeDirectoriesFrom_keeps hmade hentry

theorem buildFiles_keeps (files : List SourceFile) (built : Built) :
    KeptOutside output built.tree (buildFiles platform options output files built).tree := by
  induction files generalizing built with
  | nil => exact .refl output built.tree
  | cons file files ih =>
      have hfirst := buildFile_keeps platform options output file built
      rw [buildFiles]
      split
      · exact hfirst
      · exact hfirst.trans (ih _)

theorem buildBetween_keeps (source : Path) (tree : FileTree) :
    KeptOutside output tree (buildBetween platform options source output tree).tree := by
  unfold buildBetween
  split
  · exact .refl output tree
  · split
    · exact .refl output tree
    · rename_i renewed hrenewed
      exact (FileTree.renewDirectory_keeps hrenewed).trans
        (buildFiles_keeps platform options output _ { tree := renewed })

end Kept

/-! ## Output directories above the sources -/

section Above

variable {tree renewed : FileTree} {source output : Path}

/-- Renewing a directory leaves no sources below it. -/
theorem sources_of_renewed (htree : tree.Consistent) (habove : output <+: source)
    (hne : output ≠ source) (hrenewed : tree.renewDirectory output = .ok renewed) :
    renewed.sources source = [] := by
  obtain ⟨hkeyed, -, hbelow, -⟩ := FileTree.renewed_of_ok htree hrenewed
  obtain ⟨rest, rfl⟩ := habove
  have hrest : rest ≠ [] := by
    rintro rfl
    simp at hne
  rw [List.eq_nil_iff_forall_not_mem]
  intro file hmem
  have hstands := ((mem_sources hkeyed (by simp [hrest])).mp hmem).stands
  rw [List.append_assoc, hbelow _ (by simp [hrest])] at hstands
  cases hstands

theorem renewDirectory_of_directory (htree : tree.Consistent)
    (hoccupied : tree.get? output = some .directory) :
    ∃ renewed, tree.renewDirectory output = .ok renewed := by
  by_cases hroot : output = []
  · subst hroot
    exact ⟨_, tree.renewDirectory_nil⟩
  · have hfree : tree.Passable output := by
      rintro above ⟨relative, rfl⟩ bytes hfile
      by_cases hself : relative = []
      · rw [hself, List.append_nil, hfile] at hoccupied
        cases hoccupied
      · rw [htree.directory_above hoccupied hself] at hfile
        cases hfile
    obtain ⟨renewed, hrenewed, -⟩ := FileTree.renewDirectory_spec htree hroot hfree
    exact ⟨renewed, hrenewed⟩

/-- A build into a directory above its sources empties it and finds nothing to build. -/
theorem buildBetween_above (htree : tree.Consistent) (habove : output <+: source)
    (hne : output ≠ source) (hoccupied : tree.get? output = some .directory)
    (platform : Platform) (options : EmitOptions) :
    ∃ renewed, buildBetween platform options source output tree = { tree := renewed } ∧
      ∀ relative, renewed.get? (source ++ relative) = none := by
  obtain ⟨renewed, hrenewed⟩ := renewDirectory_of_directory htree hoccupied
  have hseparate : source.isPrefixOf output = false := by
    rw [← Bool.not_eq_true, List.isPrefixOf_iff_prefix]
    intro hinside
    exact hne (habove.eq_of_length_le hinside.length_le)
  refine ⟨renewed, ?_, ?_⟩
  · rw [buildBetween, hseparate, hrenewed]
    dsimp only
    rw [sources_of_renewed htree habove hne hrenewed]
    rfl
  · intro relative
    obtain ⟨rest, rfl⟩ := habove
    have hrest : rest ++ relative ≠ [] := by
      intro hnil
      rw [(List.append_eq_nil_iff.mp hnil).1, List.append_nil] at hne
      exact hne rfl
    rw [List.append_assoc]
    exact (FileTree.renewed_of_ok htree hrenewed).2.2.1 _ hrest

end Above

/-! ## Whole builds -/

/-- Every file below a directory stands in the other tree, with the same bytes. -/
def FilesKept (source : Path) (tree later : FileTree) : Prop :=
  ∀ relative bytes, tree.get? (source ++ relative) = some (.file bytes) →
    later.get? (source ++ relative) = some (.file bytes)

theorem buildBetween_filesKept {source output : Path}
    (hsafe : ¬ output <+: source ∨ output = source) (platform : Platform) (options : EmitOptions)
    (tree : FileTree) :
    FilesKept source tree (buildBetween platform options source output tree).tree := by
  intro relative bytes hfile
  by_cases hinside : source <+: output
  · have hnested : source.isPrefixOf output = true := List.isPrefixOf_iff_prefix.mpr hinside
    rw [buildBetween, if_pos hnested]
    exact hfile
  · have hapart : ¬ output <+: source := by
      rcases hsafe with hapart | rfl
      · exact hapart
      · exact hinside
    exact buildBetween_keeps platform options output source tree _ _
      (apart_append hinside hapart relative).2 hfile

/-- The sources of a build are safe except in an output directory above them.  There, if the build
begins at all, they are lost, and it ends well without having visited any. -/
theorem sources_kept_iff (platform : Platform) (options : EmitOptions) (workingDirectory : Path)
    (source output : Text) (tree : FileTree) (htree : tree.Consistent) :
    let sourcePath := Path.resolve workingDirectory source
    let outputPath := Path.resolve workingDirectory output
    let built := build platform options workingDirectory source output tree
    let begins := tree.find? workingDirectory (Path.tidy source) = some .directory
    let above := outputPath <+: sourcePath ∧ outputPath ≠ sourcePath
    let hasFiles := ∃ relative bytes, tree.get? (sourcePath ++ relative) = some (.file bytes)
    (FilesKept sourcePath tree built.tree ↔ ¬ (begins ∧ above ∧ hasFiles)) ∧
    (begins → above → hasFiles →
      built.error = none ∧ built.files = 0 ∧
      ∀ relative, built.tree.get? (sourcePath ++ relative) = none) := by
  intro sourcePath outputPath built begins above hasFiles
  have hlost : begins → above → hasFiles → built.error = none ∧ built.files = 0 ∧
      ∀ relative, built.tree.get? (sourcePath ++ relative) = none := by
    rintro hbegins ⟨habove, hne⟩ ⟨relative, bytes, hfile⟩
    have hbuilt : built = buildBetween platform options sourcePath outputPath tree :=
      if_pos hbegins
    have hoccupied : tree.get? outputPath = some .directory := by
      obtain ⟨rest, hrest⟩ := habove
      rw [← hrest, List.append_assoc] at hfile
      refine htree.directory_above hfile ?_
      intro hnil
      rw [(List.append_eq_nil_iff.mp hnil).1, List.append_nil] at hrest
      exact hne hrest
    obtain ⟨renewed, hresult, hnothing⟩ :=
      buildBetween_above htree habove hne hoccupied platform options
    rw [hbuilt, hresult]
    exact ⟨rfl, rfl, hnothing⟩
  refine ⟨?_, hlost⟩
  constructor
  · rintro hkept ⟨hbegins, habove, relative, bytes, hfile⟩
    obtain ⟨-, -, hnothing⟩ := hlost hbegins habove ⟨relative, bytes, hfile⟩
    have hstays := hkept relative bytes hfile
    rw [hnothing relative] at hstays
    cases hstays
  · intro hsafe relative bytes hfile
    by_cases hbegins : begins
    · have hbuilt : built = buildBetween platform options sourcePath outputPath tree :=
        if_pos hbegins
      rw [hbuilt]
      refine buildBetween_filesKept ?_ platform options tree relative bytes hfile
      by_cases hself : outputPath = sourcePath
      · exact .inr hself
      · exact .inl fun habove => hsafe ⟨hbegins, ⟨habove, hself⟩, relative, bytes, hfile⟩
    · have hbuilt : built = { tree, error := some (.noSource (Path.tidy source)) } :=
        if_neg hbegins
      rw [hbuilt]
      exact hfile

/-- A source directory in another directory. -/
def enclosedTree : FileTree where
  entries := [
    ([['p']], .directory),
    ([['p'], ['s']], .directory),
    ([['p'], ['s'], ['a', '.', 'j', 's']], .file [59])]

theorem kept_beside_lost_below :
    let beside := build (.plain Grammar.parse) {} [] ['p', '/', 's'] ['o'] enclosedTree
    let above := build (.plain Grammar.parse) {} [] ['p', '/', 's'] ['p'] enclosedTree
    enclosedTree.Consistent ∧ FilesKept [['p'], ['s']] enclosedTree beside.tree ∧
    above.error = none ∧ above.files = 0 := by
  intro beside above
  have htree : enclosedTree.Consistent := by decide
  have hbeside := (sources_kept_iff (.plain Grammar.parse) {} [] ['p', '/', 's'] ['o']
    enclosedTree htree).1
  have habove := (sources_kept_iff (.plain Grammar.parse) {} [] ['p', '/', 's'] ['p']
    enclosedTree htree).2 (by decide) (by decide) ⟨[['a', '.', 'j', 's']], [59], by decide⟩
  refine ⟨htree, hbeside.mpr ?_, habove.1, habove.2.1⟩
  rintro ⟨-, ⟨houtput, -⟩, -⟩
  exact absurd houtput (by decide)

/-- The only source is gone once its directory was built into the one above. -/
theorem enclosing_output_loses_source :
    let built := build (.plain Grammar.parse) {} [] ['p', '/', 's'] ['p'] enclosedTree
    enclosedTree.Consistent ∧
    ¬ FilesKept (Path.resolve [] ['p', '/', 's']) enclosedTree built.tree := by
  intro built
  refine ⟨by decide, ?_⟩
  intro hkept
  have hgone : (build (.plain Grammar.parse) {} [] ['p', '/', 's'] ['p'] enclosedTree).tree.get?
      [['p'], ['s'], ['a', '.', 'j', 's']] = none := by decide +kernel
  have hstays := hkept [['a', '.', 'j', 's']] [59] (by decide)
  exact absurd (hgone.symm.trans hstays) (by simp)

end TaggedMarkup
