/-
  Directories and files, and how a path finds them. A path starts at the root or in the current
  directory and is followed name by name, every name but the last through a directory: an empty
  name and `.` stay where they are, `..` goes up, and at the root stays there. So the place that a
  path leads to does not depend on what there is (`placeOf`), however the path is spelled, and an
  entry stands where it was put (`eq_placeOf_of_followed`).
-/
import LoxLexer.Path
import LoxLexer.Text.Utf8

namespace LoxLexer

/-- What a path can lead to. A locked file is there, but may not be read. -/
inductive Entry
  | file (content : List UInt8)
  | locked
  | directory
deriving DecidableEq, Repr

/-- Why a path leads nowhere. -/
inductive PathError
  | missing
  | notDirectory
  | nameTooLong
deriving DecidableEq, Repr

/-- A place among directories and files: the names on the way to it from the root. -/
abbrev Place := List Text

/-- The place that a name stands for in the directory at a place. The root is above itself. -/
def Place.next (place : Place) (name : Text) : Place :=
  if name = [] ∨ name = ['.'] then place
  else if name = ['.', '.'] then place.dropLast
  else place ++ [name]

/-- Files and directories by their places, the latest first, and the place of the current
directory. -/
structure FileTree where
  entries : List (Place × Entry)
  current : Place
deriving DecidableEq, Repr

namespace FileTree

/-- The tree without entries, its root the current directory. -/
def empty : FileTree := ⟨[], []⟩

/-- Where a path starts. -/
def start (tree : FileTree) (path : Path) : Place :=
  if path.text.head? = some '/' then [] else tree.current

/-- Where a path leads when every directory on it is there. -/
def placeOf (tree : FileTree) (path : Path) : Place :=
  path.names.foldl Place.next (tree.start path)

/-- The tree with one more entry at a path. -/
def insert (tree : FileTree) (path : Path) (entry : Entry) : FileTree :=
  { tree with entries := (tree.placeOf path, entry) :: tree.entries }

/-- What stands at a place. The directories on the way to an entry are there too, and so are the
current directory and those on the way to it. -/
def entry? (tree : FileTree) (place : Place) : Option Entry :=
  match tree.entries.lookup place with
  | some entry => some entry
  | none =>
    if (tree.current :: tree.entries.map Prod.fst).any place.isPrefixOf then some .directory
    else none

/-- Goes from a place to the one that a name stands for. -/
def step (tree : FileTree) (place : Place) (name : Text) : Except PathError Place :=
  match tree.entry? place with
  | some .directory =>
    if 255 < (Utf8.encode name).length then .error .nameTooLong
    else if (tree.entry? (place.next name)).isSome then .ok (place.next name)
    else .error .missing
  | _ => .error .notDirectory

theorem eq_next_of_step {tree : FileTree} {place next : Place} {name : Text}
    (h : tree.step place name = .ok next) : next = place.next name := by
  unfold step at h
  split at h
  · split at h
    · cases h
    · split at h
      · exact (Except.ok.inj h).symm
      · cases h
  · cases h

theorem eq_foldl_of_foldlM_step {tree : FileTree} {names : List Text} {place last : Place}
    (h : names.foldlM tree.step place = .ok last) : last = names.foldl Place.next place := by
  induction names generalizing place with
  | nil =>
    cases h
    rfl
  | cons name names ih =>
    rw [List.foldlM_cons] at h
    cases hstep : tree.step place name with
    | error e => simp [hstep, bind, Except.bind] at h
    | ok next =>
      rw [List.foldl_cons, ← eq_next_of_step hstep]
      exact ih (by simpa [hstep, bind, Except.bind] using h)

/-- A path that can be followed leads to the place where an entry at that path is put. -/
theorem eq_placeOf_of_followed {tree : FileTree} {path : Path} {place : Place}
    (h : path.names.foldlM tree.step (tree.start path) = .ok place) :
    place = tree.placeOf path :=
  eq_foldl_of_foldlM_step h

/-- What a path leads to. -/
def lookup (tree : FileTree) (path : Path) : Except PathError Entry :=
  if 4095 < (Utf8.encode path.text).length then .error .nameTooLong
  else if path.text = [] then .error .missing
  else
    match path.names.foldlM tree.step (tree.start path) with
    | .error e => .error e
    | .ok place =>
      match tree.entry? place with
      | some entry => .ok entry
      | none => .error .missing

end FileTree

end LoxLexer
