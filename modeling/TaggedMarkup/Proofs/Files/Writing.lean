import Mathlib.Data.List.TakeWhile
import TaggedMarkup.Platform
import TaggedMarkup.Proofs.Files.Tree

/-!
# Texts in files

A text is written in three steps: the directories above its file are made, the
file is emptied, and the text is encoded.  The first two fail before anything
has changed.  A text that cannot be encoded leaves the file empty.
-/

namespace TaggedMarkup

namespace Platform

variable {platform : Platform} {text : Text}

/-- No character of the text stands for a byte that could not be decoded. -/
def Encodable (platform : Platform) (text : Text) : Prop :=
  ∀ c ∈ text, platform.undecoded? c = none

theorem encodable_plain (parse : Text → SyntaxTree) (text : Text) : (plain parse).Encodable text :=
  fun _ _ => rfl

theorem dropWhile_eq_nil_iff_encodable :
    text.dropWhile (fun c => (platform.undecoded? c).isNone) = [] ↔ platform.Encodable text := by
  simp [List.dropWhile_eq_nil_iff, Encodable]

theorem encode_of_encodable (h : platform.Encodable text) :
    platform.encode text = .ok (Utf8.encode text) := by
  rw [encode, dropWhile_eq_nil_iff_encodable.mpr h]

theorem encode_of_not_encodable (h : ¬ platform.Encodable text) :
    ∃ error, platform.encode text = .error error := by
  rw [← dropWhile_eq_nil_iff_encodable] at h
  rw [encode]
  split
  · rename_i hnone
    exact absurd hnone h
  · exact ⟨_, rfl⟩

section Write

variable {tree : FileTree} {path : Path}

theorem writeText_of_directory (h : tree.get? path = some .directory) :
    platform.writeText tree path text = ⟨tree, some (.storage .isDirectory)⟩ := by
  rw [writeText, FileTree.writeFile, h]

theorem writeText_of_encodable (hfree : tree.get? path ≠ some .directory)
    (h : platform.Encodable text) :
    platform.writeText tree path text =
      ⟨tree.insert path (.file (Utf8.encode text)), none⟩ := by
  rw [writeText, FileTree.writeFile_eq_ok.mpr ⟨hfree, rfl⟩]
  dsimp only
  rw [encode_of_encodable h]
  dsimp only
  rw [FileTree.insert_insert]

theorem writeText_of_not_encodable (hfree : tree.get? path ≠ some .directory)
    (h : ¬ platform.Encodable text) :
    ∃ error, platform.writeText tree path text =
      ⟨tree.insert path (.file []), some (.unencodable error)⟩ := by
  obtain ⟨error, herror⟩ := encode_of_not_encodable h
  rw [writeText, FileTree.writeFile_eq_ok.mpr ⟨hfree, rfl⟩]
  dsimp only
  rw [herror]
  exact ⟨error, rfl⟩

end Write

end Platform

/-! ## Below directories that are made -/

namespace FileTree

/-- The directories above a file could be made, and there is no directory in its place. -/
structure Opens (tree : FileTree) (path : Path) (made : FileTree) : Prop where
  makes : tree.makeDirectories path.dropLast = .ok made
  free : made.get? path ≠ some .directory

variable {tree made : FileTree} {path : Path}

theorem dropLast_ne_self {path : Path} (h : path ≠ []) : path.dropLast ≠ path := by
  intro heq
  have hlength := congrArg List.length heq
  have hpositive := List.length_pos_iff.mpr h
  rw [List.length_dropLast] at hlength
  omega

theorem exists_opens (hpath : path ≠ []) (hfree : tree.Passable path.dropLast)
    (hempty : tree.get? path ≠ some .directory) : ∃ made, tree.Opens path made := by
  obtain ⟨made, hmade, -, hget⟩ := makeDirectories_spec hfree
  have hnotAbove : ¬ path <+: path.dropLast := by
    intro hbegins
    exact dropLast_ne_self hpath ((List.dropLast_prefix path).eq_of_length_le hbegins.length_le)
  refine ⟨made, hmade, ?_⟩
  rw [hget, if_neg hnotAbove]
  exact hempty

theorem Opens.passable (h : tree.Opens path made) : tree.Passable path.dropLast :=
  passable_of_makeDirectories h.makes

theorem Opens.keyed (h : tree.Opens path made) (hkeyed : tree.Keyed) : made.Keyed := by
  obtain ⟨other, hother, hmade, -⟩ := makeDirectories_spec h.passable
  obtain rfl := Except.ok.inj (h.makes.symm.trans hother)
  exact hmade hkeyed

/-- What stands where once a file was put there. -/
theorem Opens.get?_insert (h : tree.Opens path made) (hpath : path ≠ []) (bytes : List UInt8)
    (other : Path) : (made.insert path (.file bytes)).get? other =
      if other = path then some (.file bytes)
      else if other <+: path.dropLast then some .directory
      else tree.get? other := by
  obtain ⟨prepared, hprepared, -, hget⟩ := makeDirectories_spec h.passable
  obtain rfl := Except.ok.inj (h.makes.symm.trans hprepared)
  rw [FileTree.get?_insert hpath, hget]

theorem Opens.keptOutside (h : tree.Opens path made) {outer : Path} (hinside : outer <+: path)
    (bytes : List UInt8) : KeptOutside outer tree (made.insert path (.file bytes)) := by
  intro other entry hapart hentry
  have hne : other ≠ path := by
    rintro rfl
    exact hapart hinside
  rw [get?_insert_of_ne made hne]
  exact makeDirectoriesFrom_keeps h.makes hentry

end FileTree

namespace Platform

variable {platform : Platform} {tree made : FileTree} {path : Path} {text : Text}

theorem deposit_of_encodable (hopens : tree.Opens path made) (h : platform.Encodable text) :
    platform.deposit tree path text = ⟨made.insert path (.file (Utf8.encode text)), none⟩ := by
  rw [deposit, hopens.makes]
  exact writeText_of_encodable hopens.free h

theorem deposit_of_not_encodable (hopens : tree.Opens path made) (h : ¬ platform.Encodable text) :
    ∃ error, platform.deposit tree path text =
      ⟨made.insert path (.file []), some (.unencodable error)⟩ := by
  rw [deposit, hopens.makes]
  exact writeText_of_not_encodable hopens.free h

/-- A file that cannot be opened is not touched. -/
theorem deposit_of_not_opens (platform : Platform) (text : Text)
    (h : ∀ made, ¬ tree.Opens path made) :
    ∃ error rest, platform.deposit tree path text = ⟨rest, some (.storage error)⟩ ∧
      (rest = tree ∨ tree.makeDirectories path.dropLast = .ok rest) := by
  rw [deposit]
  cases hmade : tree.makeDirectories path.dropLast with
  | error error => exact ⟨error, tree, rfl, .inl rfl⟩
  | ok made =>
      have hoccupied : made.get? path = some .directory := by
        by_contra hfree
        exact h made ⟨hmade, hfree⟩
      exact ⟨.isDirectory, made, writeText_of_directory hoccupied, .inr rfl⟩

end Platform

end TaggedMarkup
