import Mathlib.Data.List.Basic
import Mathlib.Data.List.Infix
import Mathlib.Data.List.Nodup
import TaggedMarkup.Files.Tree

/-!
# File trees as maps

A tree is read only by looking up paths, so each change is described by what
every path leads to afterwards.  Making directories turns the prefixes of a path
into directories and leaves all else; renewing a directory also takes away what
was below it.  Neither touches what stands outside of the path.
-/

namespace TaggedMarkup

theorem lookup_eq_some_iff_mem {α β : Type} [BEq α] [LawfulBEq α] {key : α} {value : β}
    {items : List (α × β)} (h : (items.map Prod.fst).Nodup) :
    items.lookup key = some value ↔ (key, value) ∈ items := by
  induction items with
  | nil => simp
  | cons item items ih =>
      obtain ⟨place, other⟩ := item
      rw [List.map_cons, List.nodup_cons] at h
      rw [List.lookup_cons, List.mem_cons, Prod.mk.injEq]
      by_cases hplace : key = place
      · subst hplace
        -- no later item has this key
        have hlater : (key, value) ∉ items := fun hmem =>
          h.1 (List.mem_map.mpr ⟨(key, value), hmem, rfl⟩)
        simp [hlater, eq_comm]
      · have hbeq : (key == place) = false := by simpa using hplace
        simp [hbeq, hplace, ih h.2]

/-- Of two paths that are apart, all that is below the one is apart from the other. -/
theorem apart_append {first second : Path} (hinside : ¬ first <+: second)
    (habove : ¬ second <+: first) (relative : Path) :
    ¬ first ++ relative <+: second ∧ ¬ second <+: first ++ relative := by
  constructor
  · intro hbegins
    exact hinside ((List.prefix_append first relative).trans hbegins)
  · intro hbegins
    rcases List.prefix_or_prefix_of_prefix hbegins (List.prefix_append first relative) with
      hover | hunder
    · exact habove hover
    · exact hinside hunder

namespace FileTree

/-! ## Entries and paths -/

/-- No path has two entries. -/
def Keyed (tree : FileTree) : Prop :=
  (tree.entries.map Prod.fst).Nodup

/-- No path has two entries, and what is there stands in a directory. -/
structure Consistent (tree : FileTree) : Prop where
  keyed : tree.Keyed
  parents : ∀ item ∈ tree.entries, tree.get? item.1.dropLast = some .directory

instance (tree : FileTree) : Decidable tree.Consistent :=
  decidable_of_iff ((tree.entries.map Prod.fst).Nodup ∧
      ∀ item ∈ tree.entries, tree.get? item.1.dropLast = some .directory)
    ⟨fun h => ⟨h.1, h.2⟩, fun h => ⟨h.keyed, h.parents⟩⟩

section Lookup

variable {tree : FileTree} {path : Path} {entry : Entry}

theorem Keyed.get?_eq_some_iff (h : tree.Keyed) (hpath : path ≠ []) :
    tree.get? path = some entry ↔ (path, entry) ∈ tree.entries := by
  rw [get?, if_neg hpath]
  exact lookup_eq_some_iff_mem h

theorem Keyed.erase (h : tree.Keyed) (path : Path) : (tree.erase path).Keyed :=
  h.sublist (List.filter_sublist.map Prod.fst)

theorem Keyed.insert (h : tree.Keyed) (path : Path) (entry : Entry) :
    (tree.insert path entry).Keyed := by
  rw [Keyed, FileTree.insert, List.map_cons, List.nodup_cons]
  refine ⟨?_, h.sublist (List.filter_sublist.map Prod.fst)⟩
  intro hmem
  obtain ⟨item, hitem, rfl⟩ := List.mem_map.mp hmem
  simp at hitem

theorem get?_insert (hpath : path ≠ []) (other : Path) :
    (tree.insert path entry).get? other =
      if other = path then some entry else tree.get? other := by
  split
  · rename_i heq
    rw [heq, get?_insert_self tree hpath]
  · rename_i hne
    exact get?_insert_of_ne tree hne entry

theorem insert_insert (tree : FileTree) (path : Path) (first second : Entry) :
    (tree.insert path first).insert path second = tree.insert path second := by
  simp [FileTree.insert, List.filter_filter]

/-- Where nothing is, nothing is below. -/
theorem Consistent.get?_below (h : tree.Consistent) (hnone : tree.get? path = none)
    (relative : Path) : tree.get? (path ++ relative) = none := by
  induction relative using List.reverseRecOn with
  | nil => rwa [List.append_nil]
  | append_singleton relative name ih =>
      rw [← List.append_assoc, Option.eq_none_iff_forall_ne_some]
      intro entry hentry
      have hmem := (h.keyed.get?_eq_some_iff (by simp)).mp hentry
      have hparent := h.parents _ hmem
      rw [List.dropLast_concat, ih] at hparent
      cases hparent

/-- What stands in a directory stands below directories only. -/
theorem Consistent.directory_above (h : tree.Consistent) {relative : Path}
    (hentry : tree.get? (path ++ relative) = some entry) (hrelative : relative ≠ []) :
    tree.get? path = some .directory := by
  induction relative using List.reverseRecOn generalizing entry with
  | nil => exact absurd rfl hrelative
  | append_singleton relative name ih =>
      rw [← List.append_assoc] at hentry
      have hmem := (h.keyed.get?_eq_some_iff (by simp)).mp hentry
      have hparent := h.parents _ hmem
      rw [List.dropLast_concat] at hparent
      by_cases hlast : relative = []
      · rwa [hlast, List.append_nil] at hparent
      · exact ih hparent hlast

theorem writeFile_eq_ok {next : FileTree} {bytes : List UInt8} :
    tree.writeFile path bytes = .ok next ↔
      tree.get? path ≠ some .directory ∧ next = tree.insert path (.file bytes) := by
  rw [writeFile]
  split
  · rename_i hoccupied
    simp [hoccupied]
  · rename_i hfree
    simp only [Except.ok.injEq]
    exact ⟨fun h => ⟨hfree, h.symm⟩, fun h => h.2.symm⟩

end Lookup

/-! ## Making directories -/

/-- No file stands at the path or above it. -/
def Passable (tree : FileTree) (path : Path) : Prop :=
  ∀ above, above <+: path → ∀ bytes, tree.get? above ≠ some (.file bytes)

theorem passable_singleton {tree : FileTree} {name : Text}
    (h : ∀ bytes, tree.get? [name] ≠ some (.file bytes)) : tree.Passable [name] := by
  intro above habove
  rcases List.prefix_cons_iff.mp habove with rfl | ⟨rest, rfl, hrest⟩
  · simp
  · rw [List.prefix_nil.mp hrest]
    exact h

theorem get?_of_step {tree next made : FileTree} {base names : Path} {name : Text}
    (hbase : tree.get? base = some .directory)
    (hnext : ∀ path, next.get? path =
      if path = base ++ [name] then some .directory else tree.get? path)
    (hmade : ∀ path, made.get? path =
      if base ++ [name] <+: path ∧ path <+: base ++ [name] ++ names then some .directory
      else next.get? path) (path : Path) :
    made.get? path =
      if base <+: path ∧ path <+: base ++ name :: names then some .directory
      else tree.get? path := by
  have happend : base ++ [name] ++ names = base ++ name :: names := by simp
  rw [hmade, hnext, happend]
  by_cases hbelow : base ++ [name] <+: path
  · have habove : base <+: path := (List.prefix_append base [name]).trans hbelow
    simp only [hbelow, habove, true_and]
    by_cases hreached : path <+: base ++ name :: names
    · simp [hreached]
    · have hne : path ≠ base ++ [name] := by
        rintro rfl
        exact hreached (happend ▸ List.prefix_append _ names)
      simp [hreached, hne]
  · have hne : path ≠ base ++ [name] := by
      rintro rfl
      exact hbelow (List.prefix_refl _)
    simp only [hbelow, false_and, if_false, hne]
    by_cases hbegins : base <+: path ∧ path <+: base ++ name :: names
    · -- of the prefixes from the base on, only the base does not pass the name
      obtain ⟨⟨relative, rfl⟩, hreached⟩ := hbegins
      rw [List.prefix_append_right_inj] at hreached
      cases relative with
      | nil => simpa using hbase
      | cons first relative =>
          obtain ⟨rfl, -⟩ := List.cons_prefix_cons.mp hreached
          exact absurd ⟨relative, by simp⟩ hbelow
    · rw [if_neg hbegins]

theorem makeDirectoriesFrom_spec {tree : FileTree} {base names : Path}
    (hbase : tree.get? base = some .directory)
    (hfree : ∀ relative, relative <+: names → ∀ bytes,
      tree.get? (base ++ relative) ≠ some (.file bytes)) :
    ∃ made, tree.makeDirectoriesFrom base names = .ok made ∧ (tree.Keyed → made.Keyed) ∧
      ∀ path, made.get? path =
        if base <+: path ∧ path <+: base ++ names then some .directory else tree.get? path := by
  induction names generalizing tree base with
  | nil =>
      refine ⟨tree, rfl, id, ?_⟩
      intro path
      split
      · rename_i hbegins
        rw [List.append_nil] at hbegins
        rw [← hbegins.1.eq_of_length_le hbegins.2.length_le, hbase]
      · rfl
  | cons name names ih =>
      have hdown : ∀ relative, base ++ [name] ++ relative = base ++ name :: relative := by simp
      have hname : base ++ [name] ≠ [] := by simp
      rw [makeDirectoriesFrom]
      cases hfound : tree.get? (base ++ [name]) with
      | some entry =>
          cases entry with
          | file bytes =>
              have hfirst : [name] <+: name :: names :=
                List.cons_prefix_cons.mpr ⟨rfl, List.nil_prefix⟩
              exact absurd hfound (hfree [name] hfirst bytes)
          | directory =>
              obtain ⟨made, hmade, hkeyed, hget⟩ := ih hfound (by
                intro relative hrelative bytes
                rw [hdown]
                exact hfree _ (List.cons_prefix_cons.mpr ⟨rfl, hrelative⟩) bytes)
              refine ⟨made, hmade, hkeyed, get?_of_step hbase ?_ hget⟩
              intro path
              split
              · rename_i heq
                rw [heq, hfound]
              · rfl
      | none =>
          obtain ⟨made, hmade, hkeyed, hget⟩ := ih
            (get?_insert_self tree hname .directory) (by
              intro relative hrelative bytes
              rw [get?_insert hname]
              split
              · simp
              · rw [hdown]
                exact hfree _ (List.cons_prefix_cons.mpr ⟨rfl, hrelative⟩) bytes)
          exact ⟨made, hmade, fun h => hkeyed (h.insert _ _),
            get?_of_step hbase (get?_insert hname) hget⟩

theorem makeDirectories_spec {tree : FileTree} {path : Path} (hfree : tree.Passable path) :
    ∃ made, tree.makeDirectories path = .ok made ∧ (tree.Keyed → made.Keyed) ∧
      ∀ other, made.get? other =
        if other <+: path then some .directory else tree.get? other := by
  have hfrom : ∀ relative, relative <+: path → ∀ bytes,
      tree.get? ([] ++ relative) ≠ some (.file bytes) := hfree
  obtain ⟨made, hmade, hkeyed, hget⟩ := makeDirectoriesFrom_spec (get?_nil tree) hfrom
  refine ⟨made, hmade, hkeyed, ?_⟩
  intro other
  rw [hget, List.nil_append]
  simp only [List.nil_prefix, true_and]

theorem makeDirectoriesFrom_keeps {tree made : FileTree} {base names path : Path} {entry : Entry}
    (h : tree.makeDirectoriesFrom base names = .ok made) (hpath : tree.get? path = some entry) :
    made.get? path = some entry := by
  induction names generalizing tree base with
  | nil =>
      cases h
      exact hpath
  | cons name names ih =>
      rw [makeDirectoriesFrom] at h
      cases hfound : tree.get? (base ++ [name]) with
      | none =>
          rw [hfound] at h
          -- a directory is made only where nothing is
          have hne : path ≠ base ++ [name] := by
            rintro rfl
            rw [hfound] at hpath
            cases hpath
          exact ih h (by rwa [get?_insert_of_ne tree hne])
      | some found =>
          rw [hfound] at h
          cases found with
          | directory => exact ih h hpath
          | file bytes => cases h

theorem free_of_makeDirectoriesFrom {tree made : FileTree} {base names : Path}
    (h : tree.makeDirectoriesFrom base names = .ok made) {relative : Path}
    (hbegins : relative <+: names) (hrelative : relative ≠ []) (bytes : List UInt8) :
    tree.get? (base ++ relative) ≠ some (.file bytes) := by
  induction names generalizing tree base relative with
  | nil => exact absurd (List.prefix_nil.mp hbegins) hrelative
  | cons name names ih =>
      obtain ⟨first, rest, rfl⟩ := List.exists_cons_of_ne_nil hrelative
      obtain ⟨rfl, hrest⟩ := List.cons_prefix_cons.mp hbegins
      have hdown : base ++ first :: rest = base ++ [first] ++ rest := by simp
      rw [makeDirectoriesFrom] at h
      cases hfound : tree.get? (base ++ [first]) with
      | none =>
          rw [hfound] at h
          by_cases hlast : rest = []
          · rw [hlast, hfound]
            simp
          · have hne : base ++ [first] ++ rest ≠ base ++ [first] := by simpa using hlast
            rw [hdown, ← get?_insert_of_ne tree hne .directory]
            exact ih h hrest hlast
      | some found =>
          rw [hfound] at h
          cases found with
          | file bytes => cases h
          | directory =>
              by_cases hlast : rest = []
              · rw [hlast, hfound]
                simp
              · rw [hdown]
                exact ih h hrest hlast

theorem passable_of_makeDirectories {tree made : FileTree} {path : Path}
    (h : tree.makeDirectories path = .ok made) : tree.Passable path := by
  intro above habove bytes
  by_cases hroot : above = []
  · simp [hroot]
  · exact free_of_makeDirectoriesFrom h habove hroot bytes

/-! ## Renewing a directory -/

theorem removeTree_spec {tree : FileTree} {path : Path} (htree : tree.Consistent)
    (hpath : path ≠ []) (hfree : tree.Passable path) :
    ∃ cleared, tree.removeTree path = .ok cleared ∧ cleared.Keyed ∧
      (∀ other, ¬ path <+: other → cleared.get? other = tree.get? other) ∧
      ∀ relative, cleared.get? (path ++ relative) = none := by
  rw [removeTree]
  cases hfound : tree.get? path with
  | none => exact ⟨tree, rfl, htree.keyed, fun _ _ => rfl, htree.get?_below hfound⟩
  | some entry =>
      cases entry with
      | file bytes => exact absurd hfound (hfree path (List.prefix_refl _) bytes)
      | directory =>
          refine ⟨tree.erase path, rfl, htree.keyed.erase path,
            fun _ hapart => get?_erase_of_apart tree hapart, ?_⟩
          intro relative
          exact get?_erase_of_below tree (List.prefix_append path relative) (by simp [hpath])

/-- A renewed directory is empty, all above it are directories, and all else is as before. -/
theorem renewDirectory_spec {tree : FileTree} {path : Path} (htree : tree.Consistent)
    (hpath : path ≠ []) (hfree : tree.Passable path) :
    ∃ renewed, tree.renewDirectory path = .ok renewed ∧ renewed.Keyed ∧
      (∀ above, above <+: path → renewed.get? above = some .directory) ∧
      (∀ relative, relative ≠ [] → renewed.get? (path ++ relative) = none) ∧
      ∀ other, ¬ other <+: path → ¬ path <+: other → renewed.get? other = tree.get? other := by
  obtain ⟨cleared, hcleared, hkeyed, hapart, hbelow⟩ := removeTree_spec htree hpath hfree
  have hpassable : cleared.Passable path := by
    intro above habove bytes
    by_cases hself : path <+: above
    · obtain ⟨relative, rfl⟩ := hself
      simp [hbelow]
    · rw [hapart above hself]
      exact hfree above habove bytes
  obtain ⟨made, hmade, hmadeKeyed, hget⟩ := makeDirectories_spec hpassable
  refine ⟨made, ?_, hmadeKeyed hkeyed, ?_, ?_, ?_⟩
  · rw [renewDirectory, hcleared]
    exact hmade
  · intro above habove
    rw [hget, if_pos habove]
  · intro relative hrelative
    have hlonger : ¬ path ++ relative <+: path := by
      intro hbegins
      have := hbegins.length_le
      rw [List.length_append] at this
      exact hrelative (List.eq_nil_of_length_eq_zero (by omega))
    rw [hget, if_neg hlonger, hbelow]
  · intro other habove hunder
    rw [hget, if_neg habove, hapart other hunder]

/-! ## What stays -/

/-- Whatever one tree has outside a directory, the other has too. -/
def KeptOutside (path : Path) (tree later : FileTree) : Prop :=
  ∀ other entry, ¬ path <+: other → tree.get? other = some entry → later.get? other = some entry

theorem KeptOutside.refl (path : Path) (tree : FileTree) : KeptOutside path tree tree :=
  fun _ _ _ hentry => hentry

theorem KeptOutside.trans {path : Path} {tree later last : FileTree}
    (hfirst : KeptOutside path tree later) (hsecond : KeptOutside path later last) :
    KeptOutside path tree last :=
  fun other entry hapart hentry => hsecond other entry hapart (hfirst other entry hapart hentry)

theorem removeTree_keeps {tree cleared : FileTree} {path : Path}
    (h : tree.removeTree path = .ok cleared) : KeptOutside path tree cleared := by
  intro other entry hapart hentry
  rw [removeTree] at h
  split at h
  · cases h
    rwa [get?_erase_of_apart tree hapart]
  · cases h
  · cases h
    exact hentry

theorem renewDirectory_eq_ok {tree renewed : FileTree} {path : Path} :
    tree.renewDirectory path = .ok renewed ↔ ∃ cleared,
      tree.removeTree path = .ok cleared ∧ cleared.makeDirectories path = .ok renewed := by
  rw [renewDirectory]
  cases tree.removeTree path <;> simp

theorem renewDirectory_keeps {tree renewed : FileTree} {path : Path}
    (h : tree.renewDirectory path = .ok renewed) : KeptOutside path tree renewed := by
  obtain ⟨cleared, hcleared, hmade⟩ := renewDirectory_eq_ok.mp h
  intro other entry hapart hentry
  exact makeDirectoriesFrom_keeps hmade (removeTree_keeps hcleared other entry hapart hentry)

theorem passable_of_renewDirectory {tree renewed : FileTree} {path : Path}
    (h : tree.renewDirectory path = .ok renewed) : tree.Passable path := by
  obtain ⟨cleared, hcleared, hmade⟩ := renewDirectory_eq_ok.mp h
  intro above habove bytes hfile
  by_cases hself : path <+: above
  · -- a file in the place of the directory is not removed
    rw [habove.eq_of_length_le hself.length_le] at hfile
    rw [removeTree, hfile] at hcleared
    cases hcleared
  · exact passable_of_makeDirectories hmade above habove bytes
      (removeTree_keeps hcleared above _ hself hfile)

theorem renewDirectory_nil (tree : FileTree) : tree.renewDirectory [] = .ok ⟨[]⟩ := by
  simp [renewDirectory, removeTree, makeDirectories, makeDirectoriesFrom, erase]

/-- A directory that could be renewed is empty, and what is apart from it is as before. -/
theorem renewed_of_ok {tree renewed : FileTree} {path : Path} (htree : tree.Consistent)
    (h : tree.renewDirectory path = .ok renewed) :
    renewed.Keyed ∧ renewed.get? path = some .directory ∧
      (∀ relative, relative ≠ [] → renewed.get? (path ++ relative) = none) ∧
      ∀ other, ¬ other <+: path → ¬ path <+: other → renewed.get? other = tree.get? other := by
  by_cases hpath : path = []
  · subst hpath
    rw [renewDirectory_nil] at h
    cases h
    refine ⟨List.nodup_nil, get?_nil _, ?_, fun _ _ hunder => absurd List.nil_prefix hunder⟩
    intro relative hrelative
    simp [get?, hrelative]
  · obtain ⟨made, hmade, hkeyed, habove, hbelow, hapart⟩ :=
      renewDirectory_spec htree hpath (passable_of_renewDirectory h)
    rw [h] at hmade
    cases hmade
    exact ⟨hkeyed, habove path (List.prefix_refl _), hbelow, hapart⟩

end FileTree

end TaggedMarkup
