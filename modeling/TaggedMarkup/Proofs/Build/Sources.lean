import Mathlib.Data.Char
import Mathlib.Data.List.Lex
import TaggedMarkup.Build
import TaggedMarkup.Proofs.Files.Tree

/-!
# The sources of a build

A build visits the files below its source directory that have the suffix of a
source and no hidden name on the way to them.  It visits each once, in the order
of their paths, name by name.
-/

namespace TaggedMarkup

/-! ## The order of paths -/

theorem textLe_iff (first second : Text) :
    textLe first second = true ↔ first = second ∨ first < second := by
  induction first generalizing second with
  | nil => cases second <;> simp [textLe]
  | cons c first ih =>
      cases second with
      | nil => simp [textLe]
      | cons d second =>
          have hless : c.toNat < d.toNat ↔ c < d := Iff.rfl
          rw [textLe, List.cons_lt_cons_iff, Bool.or_eq_true, decide_eq_true_eq, hless,
            Bool.and_eq_true, beq_iff_eq, ih, List.cons.injEq]
          tauto

theorem Path.le_iff (first second : Path) : first.le second = true ↔ first ≤ second := by
  rw [le_iff_eq_or_lt]
  induction first generalizing second with
  | nil => cases second <;> simp [Path.le]
  | cons name first ih =>
      cases second with
      | nil => simp [Path.le]
      | cons other second =>
          rw [Path.le, List.cons_lt_cons_iff, List.cons.injEq]
          split
          · rename_i heq
            simp [heq, ih]
          · rename_i hne
            simp [hne, textLe_iff]

/-! ## Names and suffixes -/

/-- What the name of a source becomes: the suffix after its last dot is exchanged. -/
theorem targetName?_eq_some {name target : Text} :
    targetName? name = some target ↔ ∃ stem suffix new, stem ≠ [] ∧
      (suffix, new) ∈ sourceSuffixes ∧ name = stem ++ '.' :: suffix ∧
      target = stem ++ '.' :: new := by
  have hkeys : (sourceSuffixes.map Prod.fst).Nodup := by decide
  have hdotless : ∀ pair ∈ sourceSuffixes, ∀ c ∈ pair.1, (c != '.') = true := by
    simp [sourceSuffixes]
  unfold targetName?
  constructor
  · intro h
    dsimp only at h
    split at h
    · cases h
    · rename_i hlong
      obtain ⟨new, hlookup, rfl⟩ := Option.map_eq_some_iff.mp h
      have hmem := (lookup_eq_some_iff_mem hkeys).mp hlookup
      have hdotted : stripEnd (· != '.') name ≠ [] := by
        intro hnil
        simp [hnil] at hlong
      obtain ⟨stem, c, hstem, hc⟩ := stripEnd_eq_concat hdotted
      have hdot : c = '.' := by simpa using hc
      subst hdot
      refine ⟨stem, _, new, ?_, hmem, ?_, by rw [hstem]; simp⟩
      · rintro rfl
        simp [hstem] at hlong
      · conv_lhs => rw [← stripEnd_append_runAtEnd (· != '.') name, hstem]
        simp
  · rintro ⟨stem, suffix, new, hstem, hmem, rfl, rfl⟩
    obtain ⟨hstrip, hrun⟩ := runAtEnd_of_stop (· != '.') stem '.' (by decide)
      (hdotless _ hmem)
    have hlookup := (lookup_eq_some_iff_mem hkeys).mpr hmem
    have hlong : ¬ (stem ++ ['.']).length < 2 := by
      have := List.length_pos_iff.mpr hstem
      simp
      omega
    rw [hstrip, hrun, if_neg hlong, hlookup]
    simp

/-- A path whose last name is that of a source, and the path of what it becomes. -/
def Renamed (path target : Path) : Prop :=
  ∃ directory stem suffix new, stem ≠ [] ∧ (suffix, new) ∈ sourceSuffixes ∧
    path = directory ++ [stem ++ '.' :: suffix] ∧ target = directory ++ [stem ++ '.' :: new]

theorem targetPath?_eq_some {path target : Path} :
    targetPath? path = some target ↔ Renamed path target := by
  unfold targetPath?
  constructor
  · intro h
    split at h
    · rename_i name hlast
      obtain ⟨target, htarget, rfl⟩ := Option.map_eq_some_iff.mp h
      obtain ⟨stem, suffix, new, hstem, hmem, rfl, rfl⟩ := targetName?_eq_some.mp htarget
      exact ⟨path.dropLast, stem, suffix, new, hstem, hmem,
        (List.dropLast_append_getLast? _ hlast).symm, rfl⟩
    · cases h
  · rintro ⟨directory, stem, suffix, new, hstem, hmem, rfl, rfl⟩
    have htarget := targetName?_eq_some.mpr ⟨stem, suffix, new, hstem, hmem, rfl, rfl⟩
    simp [htarget]

/-! ## Sources of a tree -/

/-- A name that a build does not pass over. -/
def Visible (name : Text) : Prop :=
  name.head? ≠ some '.' ∧ name ≠ "node_modules".toList

theorem not_visible_iff (name : Text) : ¬ Visible name ↔ isPassedOver name = true := by
  rw [isPassedOver, Visible, Bool.or_eq_true, decide_eq_true_eq, decide_eq_true_eq]
  tauto

/-- A file below a directory that a build of the directory visits. -/
structure SourceFile.Eligible (tree : FileTree) (source : Path) (file : SourceFile) : Prop where
  stands : tree.get? (source ++ file.path) = some (.file file.bytes)
  visible : ∀ name ∈ file.path, Visible name
  renamed : Renamed file.path file.target

theorem ofFile?_eq_some {path : Path} {bytes : List UInt8} {file : SourceFile} :
    SourceFile.ofFile? (path, bytes) = some file ↔ file.path = path ∧ file.bytes = bytes ∧
      (∀ name ∈ file.path, Visible name) ∧ Renamed file.path file.target := by
  obtain ⟨place, target, held⟩ := file
  have hpassed : path.any isPassedOver = true ↔ ¬ ∀ name ∈ path, Visible name := by
    simp only [List.any_eq_true, not_forall, exists_prop, not_visible_iff]
  unfold SourceFile.ofFile?
  dsimp only
  split
  · rename_i hany
    have hhidden := hpassed.mp hany
    constructor
    · intro h
      cases h
    · rintro ⟨rfl, -, hvisible, -⟩
      exact absurd hvisible hhidden
  · rename_i hany
    have hvisible := not_not.mp (mt hpassed.mpr hany)
    simp only [Option.map_eq_some_iff, SourceFile.mk.injEq, targetPath?_eq_some]
    constructor
    · rintro ⟨_, hrenamed, rfl, rfl, rfl⟩
      exact ⟨rfl, rfl, hvisible, hrenamed⟩
    · rintro ⟨rfl, rfl, -, hrenamed⟩
      exact ⟨target, hrenamed, rfl, rfl, rfl⟩

section Sources

variable {tree : FileTree} {source : Path}

theorem mem_filesUnder {relative : Path} {bytes : List UInt8} :
    (relative, bytes) ∈ tree.filesUnder source ↔
      (source ++ relative, .file bytes) ∈ tree.entries := by
  rw [FileTree.filesUnder, List.mem_filterMap]
  constructor
  · rintro ⟨⟨place, entry⟩, hmem, h⟩
    dsimp only at h
    split at h
    · rename_i bytes' rest hbegins
      cases h
      rw [List.isPrefixOf?_eq_some_iff_append_eq] at hbegins
      rwa [hbegins]
    · cases h
  · intro hmem
    refine ⟨_, hmem, ?_⟩
    have hbegins : source.isPrefixOf? (source ++ relative) = some relative :=
      List.isPrefixOf?_eq_some_iff_append_eq.mpr rfl
    simp [hbegins]

theorem mem_sources (htree : tree.Keyed) (hsource : source ≠ []) {file : SourceFile} :
    file ∈ tree.sources source ↔ file.Eligible tree source := by
  rw [FileTree.sources, List.mem_mergeSort, List.mem_filterMap]
  constructor
  · rintro ⟨⟨path, bytes⟩, hmem, hfile⟩
    obtain ⟨rfl, rfl, hvisible, hrenamed⟩ := ofFile?_eq_some.mp hfile
    have hstands := (htree.get?_eq_some_iff (by simp [hsource])).mpr (mem_filesUnder.mp hmem)
    exact ⟨hstands, hvisible, hrenamed⟩
  · rintro ⟨hstands, hvisible, hrenamed⟩
    refine ⟨(file.path, file.bytes), ?_, ofFile?_eq_some.mpr ⟨rfl, rfl, hvisible, hrenamed⟩⟩
    exact mem_filesUnder.mpr ((htree.get?_eq_some_iff (by simp [hsource])).mp hstands)

theorem filesUnder_distinct (htree : tree.Keyed) :
    (tree.filesUnder source).Pairwise fun first second => first.1 ≠ second.1 := by
  rw [FileTree.filesUnder, List.pairwise_filterMap]
  refine (List.pairwise_map.mp htree).imp ?_
  rintro ⟨place, entry⟩ ⟨place', entry'⟩ hne found hfound found' hfound' heq
  dsimp only at hfound hfound'
  split at hfound
  · split at hfound'
    · rename_i hbegins _ _ _ _ hbegins'
      cases hfound
      cases hfound'
      rw [List.isPrefixOf?_eq_some_iff_append_eq] at hbegins hbegins'
      exact hne (hbegins.symm.trans ((congrArg (source ++ ·) heq).trans hbegins'))
    · cases hfound'
  · cases hfound

/-- Every source is visited once, in the order of the paths. -/
theorem sources_increasing (htree : tree.Keyed) :
    (tree.sources source).Pairwise fun first second => first.path < second.path := by
  have hsorted : (tree.sources source).Pairwise fun first second =>
      first.path.le second.path = true := by
    refine List.pairwise_mergeSort ?_ ?_ _
    · intro first second third
      simp only [Path.le_iff]
      exact le_trans
    · intro first second
      simp only [Bool.or_eq_true, Path.le_iff]
      exact le_total _ _
  have hdistinct : (tree.sources source).Pairwise fun first second =>
      first.path ≠ second.path := by
    refine (List.mergeSort_perm _ _).pairwise_iff (fun hne => hne.symm) |>.mpr ?_
    rw [List.pairwise_filterMap]
    refine (filesUnder_distinct htree).imp ?_
    rintro ⟨path, bytes⟩ ⟨path', bytes'⟩ hne file hfile file' hfile'
    rw [(ofFile?_eq_some.mp hfile).1, (ofFile?_eq_some.mp hfile').1]
    exact hne
  refine hsorted.imp₂ ?_ hdistinct
  intro first second hle hne
  exact lt_of_le_of_ne ((Path.le_iff _ _).mp hle) hne

theorem sources_nodup (htree : tree.Keyed) : (tree.sources source).Nodup := by
  refine (sources_increasing htree).imp ?_
  rintro first _ hlt rfl
  exact lt_irrefl _ hlt

/-- The sources depend on nothing but what stands below the directory. -/
theorem sources_congr {other : FileTree} (htree : tree.Keyed) (hother : other.Keyed)
    (hsource : source ≠ [])
    (hsame : ∀ relative, tree.get? (source ++ relative) = other.get? (source ++ relative)) :
    tree.sources source = other.sources source := by
  have hperm : (tree.sources source).Perm (other.sources source) := by
    rw [List.perm_ext_iff_of_nodup (sources_nodup htree) (sources_nodup hother)]
    intro file
    rw [mem_sources htree hsource, mem_sources hother hsource]
    constructor
    · rintro ⟨hstands, hvisible, hrenamed⟩
      exact ⟨by rwa [← hsame], hvisible, hrenamed⟩
    · rintro ⟨hstands, hvisible, hrenamed⟩
      exact ⟨by rwa [hsame], hvisible, hrenamed⟩
  -- an increasing list is known by its members
  refine hperm.eq_of_pairwise ?_ (sources_increasing htree) (sources_increasing hother)
  intro first second _ _ hlt hgt
  exact absurd hgt (lt_asymm hlt)

/-- Renewing a directory beside the sources leaves them as they are. -/
theorem sources_of_renewed_apart {output : Path} {renewed : FileTree} (htree : tree.Consistent)
    (hapart : ¬ source <+: output) (habove : ¬ output <+: source)
    (hrenewed : tree.renewDirectory output = .ok renewed) :
    renewed.sources source = tree.sources source := by
  obtain ⟨hkeyed, -, -, hsame⟩ := FileTree.renewed_of_ok htree hrenewed
  have hsource : source ≠ [] := by
    rintro rfl
    exact hapart List.nil_prefix
  refine sources_congr hkeyed htree.keyed hsource fun relative => ?_
  obtain ⟨hinside, hover⟩ := apart_append hapart habove relative
  exact hsame _ hinside hover

theorem target_ne_nil (hkeyed : tree.Keyed) (hsource : source ≠ []) {file : SourceFile}
    (hmem : file ∈ tree.sources source) : file.target ≠ [] := by
  obtain ⟨directory, stem, suffix, new, -, -, -, htarget⟩ :=
    ((mem_sources hkeyed hsource).mp hmem).renamed
  simp [htarget]

end Sources

end TaggedMarkup
