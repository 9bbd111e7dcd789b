/-
# Reading and writing along paths

A path is followed from the root or from the working directory, name by name. Every name has to
stand in a directory; `.` stays where it is, `..` goes up, and the root is its own parent. A
slash at the end asks for a directory. A file is created at its path when the directory that it
stands in exists, and no directory is ever created.
-/
import ClusterConfig.FileTree.Basic

namespace ClusterConfig

/-! ## Faults -/

/-- Why a file cannot be read or created. -/
inductive IoFault where
  | notFound
  | isDirectory
  | notDirectory
  | nameTooLong
  | notText
  deriving DecidableEq, Repr

/-- The wording of a fault. -/
def IoFault.message : IoFault → String
  | .notFound => "No such file or directory (os error 2)"
  | .isDirectory => "Is a directory (os error 21)"
  | .notDirectory => "Not a directory (os error 20)"
  | .nameTooLong => "File name too long (os error 36)"
  | .notText => "stream did not contain valid UTF-8"

/-- The text that the content of a file is in UTF-8. -/
def decodeText (content : ByteArray) : Except IoFault String :=
  match String.fromUTF8? content with
  | some text => .ok text
  | none => .error .notText

/-- A text is the text of its own bytes. -/
@[simp] theorem decodeText_toUTF8 (text : String) : decodeText text.toUTF8 = .ok text := by
  simp [decodeText, String.fromUTF8?, String.fromUTF8, text.isValidUTF8]

/-! ## Following paths -/

/-- The length, in bytes, from which on a path is too long. -/
def Path.maxLength : Nat := 4096

/-- The greatest length of a name, in bytes. -/
def Path.maxNameLength : Nat := 255

/-- A path that is empty or too long is never followed. -/
def Path.check (p : Path) : Except IoFault Unit :=
  if p.text.utf8ByteSize ≥ maxLength then .error .nameTooLong
  else if p.text = "" then .error .notFound
  else .ok ()

namespace FileTree

/-- The location a path starts from. -/
def start (tree : FileTree) (p : Path) : Location :=
  if p.isAbsolute then [] else tree.workingDirectory

/-- The entry at a location is a directory, in which names can be looked up. -/
def checkDirectory (tree : FileTree) (location : Location) : Except IoFault Unit :=
  match tree.get? location with
  | some .directory => .ok ()
  | some (.file _) => .error .notDirectory
  | none => .error .notFound

/-- Where a name in a directory leads. -/
def lookup (tree : FileTree) (location : Location) (name : String) : Except IoFault Location :=
  if name = "." then .ok location
  else if name = ".." then .ok location.tail
  else if name.utf8ByteSize > Path.maxNameLength then .error .nameTooLong
  else if tree.get? (name :: location) = none then .error .notFound
  else .ok (name :: location)

/-- Follows one name. -/
def step (tree : FileTree) (location : Location) (name : String) : Except IoFault Location := do
  tree.checkDirectory location
  tree.lookup location name

/-- Follows names one after the other. -/
def walk (tree : FileTree) : Location → List String → Except IoFault Location
  | location, [] => .ok location
  | location, name :: names => do tree.walk (← tree.step location name) names

/-! ## Reading -/

/-- The location of the file or directory that a path leads to. -/
def locate (tree : FileTree) (p : Path) : Except IoFault Location := do
  p.check
  tree.walk (tree.start p) (p.components ++ if p.endsInSlash then ["."] else [])

/-- The content of the file at a path. -/
def readBytes (tree : FileTree) (p : Path) : Except IoFault ByteArray := do
  match tree.get? (← tree.locate p) with
  | some (.file content) => .ok content
  | some .directory => .error .isDirectory
  | none => .error .notFound

/-- The content of the file at a path, as text. -/
def readText (tree : FileTree) (p : Path) : Except IoFault String := do
  decodeText (← tree.readBytes p)

/-! ## Writing -/

/-- Where a file with a name can be created in a directory: where no directory is. -/
def newFile (tree : FileTree) (location : Location) (name : String) : Except IoFault Location :=
  if name = "." ∨ name = ".." then .error .isDirectory
  else if name.utf8ByteSize > Path.maxNameLength then .error .nameTooLong
  else if tree.get? (name :: location) = some .directory then .error .isDirectory
  else .ok (name :: location)

/-- Where the file at a path can be created. A path that ends in a slash is a directory's. -/
def target (tree : FileTree) (p : Path) : Except IoFault Location := do
  p.check
  match p.components.reverse with
  | [] => .error .isDirectory
  | name :: above =>
    let parent ← tree.walk (tree.start p) above.reverse
    tree.checkDirectory parent
    if p.endsInSlash then .error .isDirectory else tree.newFile parent name

/-- Creates the file at a path, or replaces its whole content. -/
def writeText (tree : FileTree) (p : Path) (text : String) : Except IoFault FileTree := do
  return tree.set (← tree.target p) (.file text.toUTF8)

/-! ## Filling a tree -/

/-- The location that a path names when nothing on the way is looked up. -/
def address (tree : FileTree) (p : Path) : Location :=
  p.components.foldl
    (fun location name =>
      if name = "." then location else if name = ".." then location.tail else name :: location)
    (tree.start p)

/-- Puts a file or an empty directory at a path, with the directories above it. -/
def put (tree : FileTree) (p : Path) (entry : Entry) : FileTree :=
  match tree.address p with
  | [] => tree
  | location =>
    let tree := tree.makeParents location
    if entry = .directory && (tree.get? location).isSome then tree else tree.set location entry

/-- Removes the file or directory at a path, with all below it. -/
def delete (tree : FileTree) (p : Path) : FileTree := tree.remove (tree.address p)

end FileTree

end ClusterConfig
