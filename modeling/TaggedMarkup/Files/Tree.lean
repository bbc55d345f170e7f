import TaggedMarkup.Files.Path

/-!
# File trees

A `FileTree` is a finite map from paths to directories and files. `FileTree.find?` looks up what a
text names, step by step through directories; `makeDirectories`, `writeFile` and `removeTree` change
a tree or say why they cannot.
-/

namespace TaggedMarkup

inductive Entry where
  | directory
  | file (bytes : List UInt8)
  deriving DecidableEq, Repr

/-- Directories and files by their paths. The root is always a directory. -/
structure FileTree where
  entries : List (Path × Entry) := []
  deriving Repr

namespace FileTree

inductive Error where
  | notFound
  | notDirectory
  | isDirectory
  | occupied
  deriving DecidableEq, Repr

def Error.message : Error → String
  | .notFound => "No such file or directory"
  | .notDirectory => "Not a directory"
  | .isDirectory => "Is a directory"
  | .occupied => "File exists"

/-! ## The map -/

def get? (tree : FileTree) (path : Path) : Option Entry :=
  if path = [] then some .directory else tree.entries.lookup path

def insert (tree : FileTree) (path : Path) (entry : Entry) : FileTree :=
  ⟨(path, entry) :: tree.entries.filter (·.1 != path)⟩

def erase (tree : FileTree) (path : Path) : FileTree :=
  ⟨tree.entries.filter fun item => !path.isPrefixOf item.1⟩

@[simp] theorem get?_nil (tree : FileTree) : tree.get? [] = some .directory := by
  simp [get?]

private theorem lookup_filter_of_kept {p : Path → Bool} {path : Path} (h : p path = true)
    (entries : List (Path × Entry)) :
    (entries.filter fun item => p item.1).lookup path = entries.lookup path := by
  induction entries with
  | nil => rfl
  | cons item entries ih =>
    obtain ⟨place, entry⟩ := item
    by_cases hplace : path = place
    · subst hplace
      simp [h]
    · have hbeq : (path == place) = false := by simpa using hplace
      by_cases hkept : p place = true <;> simp [List.lookup_cons, hkept, hbeq, ih]

private theorem lookup_filter_of_dropped {p : Path → Bool} {path : Path} (h : p path = false)
    (entries : List (Path × Entry)) :
    (entries.filter fun item => p item.1).lookup path = none := by
  induction entries with
  | nil => rfl
  | cons item entries ih =>
    obtain ⟨place, entry⟩ := item
    by_cases hplace : path = place
    · subst hplace
      simp [h, ih]
    · have hbeq : (path == place) = false := by simpa using hplace
      by_cases hkept : p place = true <;> simp [List.lookup_cons, hkept, hbeq, ih]

theorem get?_insert_self (tree : FileTree) {path : Path} (h : path ≠ []) (entry : Entry) :
    (tree.insert path entry).get? path = some entry := by
  simp [get?, insert, h]

theorem get?_insert_of_ne (tree : FileTree) {path other : Path} (h : other ≠ path)
    (entry : Entry) : (tree.insert path entry).get? other = tree.get? other := by
  by_cases hroot : other = []
  · simp [hroot]
  · have hbeq : (other == path) = false := by simpa using h
    have hkept : (other != path) = true := by simpa using h
    simp [get?, insert, hroot, List.lookup_cons, hbeq,
      lookup_filter_of_kept (p := fun place => place != path) hkept]

theorem get?_erase_of_below (tree : FileTree) {path other : Path} (h : path <+: other)
    (hroot : other ≠ []) : (tree.erase path).get? other = none := by
  have hdropped : (!path.isPrefixOf other) = false := by simpa using h
  simp [get?, erase, hroot,
    lookup_filter_of_dropped (p := fun place => !path.isPrefixOf place) hdropped]

theorem get?_erase_of_apart (tree : FileTree) {path other : Path} (h : ¬ path <+: other) :
    (tree.erase path).get? other = tree.get? other := by
  by_cases hroot : other = []
  · simp [hroot]
  · have hkept : (!path.isPrefixOf other) = true := by
      simpa [← Bool.not_eq_true, List.isPrefixOf_iff_prefix] using h
    simp [get?, erase, hroot,
      lookup_filter_of_kept (p := fun place => !path.isPrefixOf place) hkept]

def filesUnder (tree : FileTree) (path : Path) : List (Path × List UInt8) :=
  tree.entries.filterMap fun (place, entry) =>
    match entry, path.isPrefixOf? place with
    | .file bytes, some relative => some (relative, bytes)
    | _, _ => none

/-! ## Walking -/

/-- Follows names from a path. Every name but the last has to lead to a directory. -/
def walk (tree : FileTree) : Path → List Text → Except Error Path
  | path, [] => .ok path
  | path, name :: names =>
    match tree.get? path with
    | some .directory => walk tree (path.step name) names
    | some (.file _) => .error .notDirectory
    | none => .error .notFound

def locate (tree : FileTree) (workingDirectory : Path) (text : Text) : Except Error Path :=
  if text = [] then .error .notFound
  else tree.walk (Path.start workingDirectory text) (Path.split text)

def find? (tree : FileTree) (workingDirectory : Path) (text : Text) : Option Entry :=
  match tree.locate workingDirectory text with
  | .ok path => tree.get? path
  | .error _ => none

/-! ## Changes -/

def makeDirectoriesFrom : FileTree → Path → List Text → Except Error FileTree
  | tree, _, [] => .ok tree
  | tree, path, name :: names =>
    match tree.get? (path ++ [name]) with
    | some .directory => makeDirectoriesFrom tree (path ++ [name]) names
    -- which error it is depends on whether the file is in the way or in the place
    | some (.file _) => .error (if names = [] then .occupied else .notDirectory)
    | none => makeDirectoriesFrom (tree.insert (path ++ [name]) .directory) (path ++ [name]) names

def makeDirectories (tree : FileTree) (path : Path) : Except Error FileTree :=
  tree.makeDirectoriesFrom [] path

def writeFile (tree : FileTree) (path : Path) (bytes : List UInt8) : Except Error FileTree :=
  match tree.get? path with
  | some .directory => .error .isDirectory
  | _ => .ok (tree.insert path (.file bytes))

/-- Takes away a directory with all that is in it. What is missing need not be taken away. -/
def removeTree (tree : FileTree) (path : Path) : Except Error FileTree :=
  match tree.get? path with
  | some .directory => .ok (tree.erase path)
  | some (.file _) => .error .notDirectory
  | none => .ok tree

def renewDirectory (tree : FileTree) (path : Path) : Except Error FileTree :=
  match tree.removeTree path with
  | .ok cleared => cleared.makeDirectories path
  | .error error => .error error

/-! ## Comparison -/

def written (tree later : FileTree) : List (Path × List UInt8) :=
  (later.filesUnder []).filter fun (path, bytes) => tree.get? path != some (.file bytes)

def removed (tree later : FileTree) : List Path :=
  ((tree.filesUnder []).map (·.1)).filter fun path =>
    match later.get? path with
    | some (.file _) => false
    | _ => true

end FileTree

end TaggedMarkup
