/-
# File trees

The files and directories that a run works on, as a finite map from locations to entries, together
with the working directory from which relative paths start.

Two trees with the same entries and the same working directory are equal, so that a statement such
as "the tree is unchanged" is an equation. The root is a directory and has no entry of its own.

Main statement: after an entry is set, its location holds it and every other location is as before
(`get?_set`).
-/
import Std.Data.ExtTreeMap
import ClusterConfig.FileTree.Path

namespace ClusterConfig

/-! ## Locations and entries -/

/-- A place in a file tree: the names on the way to it, the last one first. The root is `[]`, and
the directory above `name :: place` is `place`. -/
abbrev Location := List String

/-- What is found at a location. -/
inductive Entry where
  | file (content : ByteArray)
  | directory

/-- Files are compared by their content. -/
instance : DecidableEq Entry
  | .file first, .file second =>
    decidable_of_iff (first.data = second.data) (by rw [Entry.file.injEq, ByteArray.ext_iff])
  | .directory, .directory => isTrue rfl
  | .file _, .directory => isFalse Entry.noConfusion
  | .directory, .file _ => isFalse Entry.noConfusion

/-- A tree of files and directories, seen from a working directory. -/
structure FileTree where
  entries : Std.ExtTreeMap Location Entry
  workingDirectory : Location

namespace FileTree

/-- The tree that holds nothing but an empty working directory. -/
def empty (workingDirectory : String) : FileTree where
  entries := (∅ : Std.ExtTreeMap Location Entry).insert [workingDirectory] .directory
  workingDirectory := [workingDirectory]

/-- The entry at a location. -/
def get? (tree : FileTree) : Location → Option Entry
  | [] => some .directory
  | location => tree.entries[location]?

/-- Two trees are equal when they have the same entries and the same working directory. -/
theorem ext {first second : FileTree}
    (hentries : ∀ location : Location, first.entries[location]? = second.entries[location]?)
    (hdirectory : first.workingDirectory = second.workingDirectory) : first = second := by
  obtain ⟨_, _⟩ := first
  obtain ⟨_, _⟩ := second
  exact congr (congrArg mk (Std.ExtTreeMap.ext_getElem? hentries)) hdirectory

/-! ## Changing entries -/

/-- Sets the entry at a location, whatever it held before. -/
def set (tree : FileTree) (location : Location) (entry : Entry) : FileTree :=
  { tree with entries := tree.entries.insert location entry }

/-- Sets an entry and leaves every other location as it was. -/
theorem get?_set (tree : FileTree) {location : Location} (entry : Entry)
    (h : location ≠ []) (place : Location) :
    (tree.set location entry).get? place =
      if place = location then some entry else tree.get? place := by
  cases place with
  | nil => simp [get?, Ne.symm h]
  | cons name above =>
    simp only [get?, set, Std.ExtTreeMap.getElem?_insert, Std.compare_eq_iff_eq]
    simp only [eq_comm]

/-- Makes every missing directory above a location. -/
def makeParents (tree : FileTree) : Location → FileTree
  | [] => tree
  | _ :: [] => tree
  | _ :: above =>
    let tree := tree.makeParents above
    if (tree.get? above).isNone then tree.set above .directory else tree

/-- Removes the entry at a location and all entries below it. -/
def remove (tree : FileTree) (location : Location) : FileTree :=
  { tree with entries := tree.entries.filter fun place _ => !location.isSuffixOf place }

/-! ## Listing -/

/-- The text of a location below a directory, with a slash at the end of a directory. -/
def relativeText (names : List String) : Entry → String
  | .file _ => "/".intercalate names
  | .directory => "/".intercalate names ++ "/"

/-- Every path below the working directory, in alphabetical order of its bytes; directories end in
a slash. -/
def listing (tree : FileTree) : List String :=
  let depth := tree.workingDirectory.length
  let below := tree.entries.toList.filter fun (location, _) =>
    tree.workingDirectory.isSuffixOf location && depth < location.length
  let texts := below.map fun (location, entry) =>
    relativeText (location.take (location.length - depth)).reverse entry
  texts.mergeSort fun a b => decide (a ≤ b)

end FileTree

end ClusterConfig
