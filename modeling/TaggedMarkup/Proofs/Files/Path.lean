import TaggedMarkup.Proofs.Files.Tree

/-!
# Tidy paths

A text that leads to something still leads to it once it is tidied: its idle
names are left out, or some are put before the others, and the way is the same
but for the places where it stands still.
-/

namespace TaggedMarkup

namespace Path

/-! ## Splitting and joining -/

theorem split_slash (rest : Text) : split ('/' :: rest) = [] :: split rest := rfl

theorem split_char {c : Char} (h : c ≠ '/') (rest : Text) :
    split (c :: rest) = pushFirst c (split rest) := by
  rw [split]
  exact h

theorem split_append_slash {name : Text} (h : '/' ∉ name) (rest : Text) :
    split (name ++ '/' :: rest) = name :: split rest := by
  induction name with
  | nil => rfl
  | cons c name ih =>
      rw [List.mem_cons, not_or] at h
      rw [List.cons_append, split_char (Ne.symm h.1), ih h.2]
      rfl

theorem split_of_no_slash {name : Text} (h : '/' ∉ name) : split name = [name] := by
  induction name with
  | nil => rfl
  | cons c name ih =>
      rw [List.mem_cons, not_or] at h
      rw [split_char (Ne.symm h.1), ih h.2]
      rfl

theorem slash_not_mem_split (text : Text) : ∀ name ∈ split text, '/' ∉ name := by
  fun_induction split text with
  | case1 => simp
  | case2 rest ih => simpa using ih
  | case3 c rest hc ih =>
      cases hsplit : split rest with
      | nil => exact absurd hsplit (split_ne_nil rest)
      | cons first others =>
          rw [hsplit] at ih
          have hchar : '/' ≠ c := fun h => hc h.symm
          simpa [pushFirst, hchar] using ih

theorem split_join {names : List Text} (hne : names ≠ []) (h : ∀ name ∈ names, '/' ∉ name) :
    split (join names) = names := by
  induction names with
  | nil => exact absurd rfl hne
  | cons name names ih =>
      have hname := h name List.mem_cons_self
      cases names with
      | nil => exact split_of_no_slash hname
      | cons other names =>
          have hjoin : join (name :: other :: names) = name ++ '/' :: join (other :: names) := by
            simp [join, joinWith]
          have hothers := ih (by simp) fun name hmem => h name (List.mem_cons_of_mem _ hmem)
          rw [hjoin, split_append_slash hname, hothers]

/-! ## Idle names -/

/-- The names of a text that lead somewhere. -/
def names (text : Text) : List Text :=
  (split text).filter (!isIdle ·)

theorem mem_names {text name : Text} (h : name ∈ names text) : name ≠ [] ∧ '/' ∉ name := by
  obtain ⟨hmem, hidle⟩ := List.mem_filter.mp h
  refine ⟨?_, slash_not_mem_split text name hmem⟩
  rintro rfl
  simp [isIdle] at hidle

theorem join_names_ne_nil {text : Text} (h : names text ≠ []) : join (names text) ≠ [] := by
  intro hempty
  have hsplit := split_join h fun name hmem => (mem_names hmem).2
  rw [hempty] at hsplit
  have hmem : [] ∈ names text := by
    rw [← hsplit]
    exact List.mem_cons_self
  exact (mem_names hmem).1 rfl

theorem head_join_names (text : Text) : (join (names text)).head? ≠ some '/' := by
  cases hnames : names text with
  | nil => simp [join, joinWith]
  | cons name others =>
      have hmem : name ∈ names text := by
        rw [hnames]
        exact List.mem_cons_self
      obtain ⟨hne, hslash⟩ := mem_names hmem
      cases name with
      | nil => exact absurd rfl hne
      | cons c name =>
          rw [List.mem_cons, not_or] at hslash
          have hc : c ≠ '/' := Ne.symm hslash.1
          cases others <;> simpa [join, joinWith] using hc

theorem leadingSlashes_cases (text : Text) :
    (text.head? ≠ some '/' ∧ leadingSlashes text = []) ∨
    (text.head? = some '/' ∧
      (leadingSlashes text = ['/'] ∨ leadingSlashes text = ['/', '/'])) := by
  unfold leadingSlashes
  split
  · simp
  · simp
  · simp
  · rename_i hother
    refine .inl ⟨?_, rfl⟩
    intro hhead
    obtain ⟨rest, hrest⟩ := List.head?_eq_some_iff.mp hhead
    exact hother rest hrest

theorem tidy_cases (text : Text) :
    (leadingSlashes text = [] ∧ names text = [] ∧ tidy text = ['.']) ∨
    ((leadingSlashes text ≠ [] ∨ names text ≠ []) ∧
      tidy text = leadingSlashes text ++ join (names text)) := by
  by_cases hempty : leadingSlashes text = [] ∧ names text = []
  · refine .inl ⟨hempty.1, hempty.2, ?_⟩
    have hnames : (split text).filter (!isIdle ·) = [] := hempty.2
    rw [tidy, hempty.1, hnames]
    rfl
  · rw [not_and_or] at hempty
    refine .inr ⟨hempty, ?_⟩
    have hbody : leadingSlashes text ++ join (names text) ≠ [] := by
      rcases hempty with h | h
      · simp [h]
      · simp [join_names_ne_nil h]
    unfold tidy
    split
    · rename_i hnil
      exact absurd hnil hbody
    · rfl

/-- Tidying keeps the names that lead somewhere, with idle names before them. -/
theorem split_tidy (text : Text) :
    ∃ idle : List Text, (∀ name ∈ idle, isIdle name = true) ∧
      split (tidy text) = idle ++ names text := by
  rcases tidy_cases text with ⟨-, hnames, htidy⟩ | ⟨hbody, htidy⟩
  · exact ⟨[['.']], by simp [isIdle], by rw [htidy, hnames]; rfl⟩
  · -- joined names split into themselves, and no names into one idle name
    have hjoined : ∃ idle : List Text, (∀ name ∈ idle, isIdle name = true) ∧
        split (join (names text)) = idle ++ names text := by
      by_cases hnames : names text = []
      · exact ⟨[[]], by simp [isIdle], by rw [hnames]; rfl⟩
      · exact ⟨[], by simp, split_join hnames fun name hmem => (mem_names hmem).2⟩
    obtain ⟨idle, hidle, hsplit⟩ := hjoined
    rw [htidy]
    rcases leadingSlashes_cases text with ⟨-, hslashes⟩ | ⟨-, hslashes | hslashes⟩
    · rw [hslashes]
      exact ⟨idle, hidle, hsplit⟩
    · rw [hslashes]
      refine ⟨[] :: idle, by simpa [isIdle] using hidle, ?_⟩
      rw [List.cons_append, split_slash, List.nil_append, hsplit]
      rfl
    · rw [hslashes]
      refine ⟨[] :: [] :: idle, by simpa [isIdle] using hidle, ?_⟩
      rw [List.cons_append, split_slash, List.cons_append, split_slash, List.nil_append, hsplit]
      rfl

theorem tidy_ne_nil (text : Text) : tidy text ≠ [] := by
  rcases tidy_cases text with ⟨-, -, htidy⟩ | ⟨hslashes | hnames, htidy⟩
  · simp [htidy]
  · simp [htidy, hslashes]
  · simp [htidy, join_names_ne_nil hnames]

theorem start_tidy (workingDirectory : Path) (text : Text) :
    start workingDirectory (tidy text) = start workingDirectory text := by
  have hhead : (tidy text).head? = some '/' ↔ text.head? = some '/' := by
    rcases tidy_cases text with ⟨hnone, -, htidy⟩ | ⟨-, htidy⟩
    · rcases leadingSlashes_cases text with ⟨hhead, -⟩ | ⟨-, hslashes | hslashes⟩
      · simp [htidy, hhead]
      · simp [hnone] at hslashes
      · simp [hnone] at hslashes
    · rcases leadingSlashes_cases text with ⟨hhead, hslashes⟩ | ⟨hhead, hslashes | hslashes⟩
      · simp [htidy, hslashes, hhead, head_join_names]
      · simp [htidy, hslashes, hhead]
      · simp [htidy, hslashes, hhead]
  rw [start, start]
  simp only [hhead]

end Path

namespace FileTree

variable {tree : FileTree} {path place : Path}

theorem walk_cons_idle {name : Text} (hpath : tree.get? path = some .directory)
    (hidle : Path.isIdle name = true) (names : List Text) :
    tree.walk path (name :: names) = tree.walk path names := by
  rw [walk, hpath]
  dsimp only
  rw [Path.step, if_pos hidle]

theorem walk_append_idle {idle : List Text} (hpath : tree.get? path = some .directory)
    (hidle : ∀ name ∈ idle, Path.isIdle name = true) (names : List Text) :
    tree.walk path (idle ++ names) = tree.walk path names := by
  induction idle with
  | nil => rfl
  | cons name idle ih =>
      rw [List.cons_append, walk_cons_idle hpath (hidle name List.mem_cons_self)]
      exact ih fun other hmem => hidle other (List.mem_cons_of_mem _ hmem)

theorem directory_of_walk {names : List Text} (hne : names ≠ [])
    (h : tree.walk path names = .ok place) : tree.get? path = some .directory := by
  cases names with
  | nil => exact absurd rfl hne
  | cons name names =>
      rw [walk] at h
      split at h
      · assumption
      · cases h
      · cases h

/-- Standing still less often, one comes to the same place. -/
theorem walk_filter {names : List Text} (h : tree.walk path names = .ok place) :
    tree.walk path (names.filter (!Path.isIdle ·)) = .ok place := by
  induction names generalizing path with
  | nil => exact h
  | cons name names ih =>
      have hpath := directory_of_walk (List.cons_ne_nil name names) h
      by_cases hidle : Path.isIdle name = true
      · rw [walk_cons_idle hpath hidle] at h
        rw [List.filter_cons_of_neg (by simp [hidle])]
        exact ih h
      · rw [walk, hpath] at h
        rw [List.filter_cons_of_pos (by simp [hidle]), walk, hpath]
        exact ih h

/-- What a text leads to, it leads to when it is tidied. -/
theorem find?_tidy {workingDirectory : Path} {text : Text} {entry : Entry}
    (h : tree.find? workingDirectory text = some entry) :
    tree.find? workingDirectory (Path.tidy text) = some entry := by
  obtain ⟨idle, hidle, hsplit⟩ := Path.split_tidy text
  have hlocate : ∀ place, tree.locate workingDirectory text = .ok place →
      tree.locate workingDirectory (Path.tidy text) = .ok place := by
    intro place hplace
    rw [locate] at hplace
    split at hplace
    · cases hplace
    · have hdirectory := directory_of_walk (Path.split_ne_nil text) hplace
      rw [locate, if_neg (Path.tidy_ne_nil text), Path.start_tidy, hsplit,
        walk_append_idle hdirectory hidle]
      exact walk_filter hplace
  rw [find?] at h ⊢
  cases hplace : tree.locate workingDirectory text with
  | error error =>
      rw [hplace] at h
      cases h
  | ok place =>
      rw [hplace] at h
      rw [hlocate place hplace]
      exact h

end FileTree

end TaggedMarkup
