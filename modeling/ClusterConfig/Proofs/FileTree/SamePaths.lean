/-
# Trees with the same paths

Two file trees have the same paths when they have files in the same places and directories in the
same places; what the files hold may differ. Main statements: a path leads to the same place in both
trees (`SamePaths.locate_eq`), a file is created there in the same place (`SamePaths.target_eq`),
and what is read there differs only in the content of the file (`SamePaths.readText_join`).
-/
import ClusterConfig.Proofs.Alike
import ClusterConfig.Proofs.FileTree.Below

namespace ClusterConfig.FileTree

open ClusterConfig.Path (IsPlainName)

/-- Two trees with files in the same places and directories in the same places. -/
structure SamePaths (first second : FileTree) : Prop where
  workingDirectory_eq : first.workingDirectory = second.workingDirectory
  directory_iff : ∀ place, first.get? place = some .directory ↔ second.get? place = some .directory
  absent_iff : ∀ place, first.get? place = none ↔ second.get? place = none

namespace SamePaths

variable {first second : FileTree}

/-! ## Changing what a file holds -/

/-- A tree has the same paths as itself. -/
theorem refl (tree : FileTree) : SamePaths tree tree := ⟨rfl, fun _ => Iff.rfl, fun _ => Iff.rfl⟩

/-- A file that holds something else is in the same place. -/
theorem set (h : SamePaths first second) {location : Location} {content changed : ByteArray}
    (hfile : first.get? location = some (.file content)) :
    SamePaths first (second.set location (.file changed)) := by
  have hlocation : location ≠ [] := by
    rintro rfl
    simp [get?] at hfile
  constructor
  case workingDirectory_eq => exact h.workingDirectory_eq
  case directory_iff =>
    intro place
    rw [get?_set second _ hlocation]
    split
    · next heq => simp [heq, hfile]
    · exact h.directory_iff place
  case absent_iff =>
    intro place
    rw [get?_set second _ hlocation]
    split
    · next heq => simp [heq, hfile]
    · exact h.absent_iff place

/-! ## Following paths -/

variable (h : SamePaths first second)
include h

/-- The same places can be looked into. -/
theorem checkDirectory_eq (place : Location) :
    first.checkDirectory place = second.checkDirectory place := by
  have hdirectory := h.directory_iff place
  have habsent := h.absent_iff place
  rw [checkDirectory, checkDirectory]
  rcases hfirst : first.get? place with _ | (content | _) <;>
    rcases hsecond : second.get? place with _ | (other | _) <;>
    simp_all

/-- A name leads to the same place. -/
theorem step_eq (place : Location) (name : String) :
    first.step place name = second.step place name := by
  have hlookup : first.lookup place name = second.lookup place name := by
    simp only [lookup, h.absent_iff]
  rw [step, step, h.checkDirectory_eq, hlookup]

/-- Names one after the other lead to the same place. -/
theorem walk_eq (place : Location) (names : List String) :
    first.walk place names = second.walk place names := by
  induction names generalizing place with
  | nil => rfl
  | cons name names ih =>
    rw [walk, walk, h.step_eq]
    cases second.step place name with
    | error fault => rfl
    | ok next => exact ih next

/-- A path starts from the same place. -/
theorem start_eq (p : Path) : first.start p = second.start p := by
  rw [start, start, h.workingDirectory_eq]

/-- **A path leads to the same place.** -/
theorem locate_eq (p : Path) : first.locate p = second.locate p := by
  rw [locate, locate, h.start_eq, h.walk_eq]

/-- **A file is created in the same place.** -/
theorem target_eq (p : Path) : first.target p = second.target p := by
  have hnew (place : Location) (name : String) :
      first.newFile place name = second.newFile place name := by
    simp only [newFile, h.directory_iff]
  simp only [target, h.start_eq, h.walk_eq, h.checkDirectory_eq, hnew]

/-- **What is read below a base** is alike when what the files of the name hold is alike as text. -/
theorem readText_join {base : Path} {name : String} {related : String → String → Prop}
    (hname : IsPlainName name)
    (hcontents : ∀ above content other, first.get? (name :: above) = some (.file content) →
      second.get? (name :: above) = some (.file other) →
      Alike related (decodeText content) (decodeText other)) :
    Alike related (first.readText (base.join name)) (second.readText (base.join name)) := by
  have hlocate := h.locate_eq (base.join name)
  rw [readText, readText]
  cases hfirst : first.locate (base.join name) with
  | error fault =>
    rw [readBytes, readBytes, ← hlocate, hfirst]
    exact .error fault
  | ok location =>
    rw [readBytes_of_locate hfirst, readBytes_of_locate (hlocate ▸ hfirst)]
    -- The last name of the place is the name that was joined to the base.
    rw [locate_join hname] at hfirst
    simp only [bind_eq_ok_iff, enter_join hname] at hfirst
    obtain ⟨_, -, place, -, hstep⟩ := hfirst
    obtain ⟨-, -, hfound, rfl⟩ := (step_eq_ok_iff hname).mp hstep
    have hdirectory := h.directory_iff (name :: place)
    have habsent := h.absent_iff (name :: place)
    rcases hentry : first.get? (name :: place) with _ | (content | _)
    · exact absurd hentry hfound
    · rcases hother : second.get? (name :: place) with _ | (other | _)
      · simp [hentry, hother] at habsent
      · exact hcontents place content other hentry hother
      · simp [hentry, hother] at hdirectory
    · rw [hdirectory.mp hentry]
      exact .error IoFault.isDirectory

end SamePaths

end ClusterConfig.FileTree
