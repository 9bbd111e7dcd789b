/-
# What is written is read

Main statement: after a text is written at a path, the file at this path reads as the text
(`readText_writeText`).

A file is only written where no directory is, and every name on the way to it stands in a directory.
So a way that leads somewhere before leads there after, too (`walk_set`).
-/
import ClusterConfig.Failure

namespace ClusterConfig.FileTree

variable {tree : FileTree} {location place : Location} {entry : Entry}

/-! ## Ways through a tree -/

/-- A way of two parts is followed part by part. -/
theorem walk_append (tree : FileTree) (location : Location) (first second : List String) :
    tree.walk location (first ++ second) = (do tree.walk (← tree.walk location first) second) := by
  induction first generalizing location with
  | nil => rfl
  | cons name names ih =>
    rw [List.cons_append, walk, walk]
    cases tree.step location name with
    | error fault => rfl
    | ok next => exact ih next

/-- Setting an entry leaves the directories elsewhere as they are. -/
theorem get?_set_of_directory (hlocation : location ≠ [])
    (hentry : tree.get? location ≠ some .directory)
    (h : tree.get? place = some .directory) :
    (tree.set location entry).get? place = some .directory := by
  rw [get?_set tree entry hlocation, if_neg, h]
  rintro rfl
  exact hentry h

/-- A directory can be looked into. -/
theorem checkDirectory_eq_ok_iff :
    tree.checkDirectory place = .ok () ↔ tree.get? place = some .directory := by
  unfold checkDirectory
  split <;> simp_all

/-- What is found somewhere is still found after an entry is set. -/
theorem get?_set_ne_none (hlocation : location ≠ []) (h : tree.get? place ≠ none) :
    (tree.set location entry).get? place ≠ none := by
  rw [get?_set tree entry hlocation]
  split
  · simp
  · exact h

/-- A name that is found is found after an entry is set. -/
theorem lookup_set {name : String} {next : Location} (hlocation : location ≠ [])
    (h : tree.lookup place name = .ok next) :
    (tree.set location entry).lookup place name = .ok next := by
  unfold lookup at h ⊢
  have hfound : tree.get? (name :: place) ≠ none →
      (tree.set location entry).get? (name :: place) ≠ none := get?_set_ne_none hlocation
  grind

/-- A step that can be taken can be taken after an entry is set where no directory is. -/
theorem step_set {name : String} {next : Location} (hlocation : location ≠ [])
    (hentry : tree.get? location ≠ some .directory) (h : tree.step place name = .ok next) :
    (tree.set location entry).step place name = .ok next := by
  rw [step, bind_eq_ok_iff] at h ⊢
  obtain ⟨_, hcheck, hlookup⟩ := h
  exact ⟨(), checkDirectory_eq_ok_iff.mpr
    (get?_set_of_directory hlocation hentry (checkDirectory_eq_ok_iff.mp hcheck)),
    lookup_set hlocation hlookup⟩

/-- A way that leads somewhere leads there after an entry is set where no directory is. -/
theorem walk_set {names : List String} {next : Location} (hlocation : location ≠ [])
    (hentry : tree.get? location ≠ some .directory) (h : tree.walk place names = .ok next) :
    (tree.set location entry).walk place names = .ok next := by
  -- Each step of the way is still there, and it leads to the same place.
  induction names generalizing place with
  | nil => exact h
  | cons name names ih =>
    rw [walk, bind_eq_ok_iff] at h ⊢
    obtain ⟨first, hstep, hwalk⟩ := h
    exact ⟨first, step_set hlocation hentry hstep, ih hwalk⟩

/-! ## Writing -/

/-- A new file stands at its name, where no directory is. -/
theorem newFile_eq_ok_iff {name : String} : tree.newFile place name = .ok location ↔
    location = name :: place ∧ name ≠ "." ∧ name ≠ ".." ∧
      name.utf8ByteSize ≤ Path.maxNameLength ∧ tree.get? location ≠ some .directory := by
  unfold newFile
  grind

/-- A file can be created at the last name of a path, in the directory that the way to it leads
to. -/
theorem target_eq_ok_iff {p : Path} : tree.target p = .ok location ↔
    ∃ (above : List String) (name : String) (parent : Location),
      p.components = above ++ [name] ∧ p.check = .ok () ∧ p.endsInSlash = false ∧
      tree.walk (tree.start p) above = .ok parent ∧ tree.get? parent = some .directory ∧
      tree.newFile parent name = .ok location := by
  constructor
  · intro h
    rw [target, bind_eq_ok_iff] at h
    obtain ⟨_, hcheck, h⟩ := h
    split at h
    case h_1 => contradiction
    case h_2 name above hreverse =>
      simp only [bind_eq_ok_iff] at h
      obtain ⟨parent, hwalk, _, hdirectory, h⟩ := h
      split at h
      case isTrue => contradiction
      case isFalse hslash =>
        refine ⟨above.reverse, name, parent, ?_, hcheck, by simpa using hslash, hwalk,
          checkDirectory_eq_ok_iff.mp hdirectory, h⟩
        rw [← List.reverse_cons, ← hreverse, List.reverse_reverse]
  · rintro ⟨above, name, parent, hcomponents, hcheck, hslash, hwalk, hdirectory, hnew⟩
    rw [target, bind_eq_ok_iff]
    refine ⟨(), hcheck, ?_⟩
    rw [hcomponents, List.reverse_append]
    simp only [List.reverse_singleton, List.singleton_append, List.reverse_reverse, bind_eq_ok_iff]
    exact ⟨parent, hwalk, (), checkDirectory_eq_ok_iff.mpr hdirectory, by rw [hslash]; exact hnew⟩

/-- A name that an entry is set at in a directory leads to that entry. -/
theorem step_set_self {name : String} (hdirectory : tree.get? place = some .directory)
    (h : tree.newFile place name = .ok location) :
    (tree.set location entry).step place name = .ok location := by
  obtain ⟨rfl, hdot, hdots, hlength, hentry⟩ := newFile_eq_ok_iff.mp h
  have hlocation : name :: place ≠ [] := List.cons_ne_nil _ _
  rw [step, bind_eq_ok_iff]
  refine ⟨(), checkDirectory_eq_ok_iff.mpr
    (get?_set_of_directory hlocation hentry hdirectory), ?_⟩
  simp [lookup, hdot, hdots, Nat.not_lt.mpr hlength, get?_set tree _ hlocation]

/-- The path that a file is created at leads to that file. -/
theorem locate_set_target {p : Path} (h : tree.target p = .ok location) :
    (tree.set location entry).locate p = .ok location := by
  obtain ⟨above, name, parent, hcomponents, hcheck, hslash, hwalk, hdirectory, hnew⟩ :=
    target_eq_ok_iff.mp h
  have hstep : (tree.set location entry).step parent name = .ok location :=
    step_set_self hdirectory hnew
  obtain ⟨rfl, _, _, _, hentry⟩ := newFile_eq_ok_iff.mp hnew
  rw [locate, bind_eq_ok_iff]
  refine ⟨(), hcheck, ?_⟩
  rw [hcomponents, hslash, walk_append, bind_eq_ok_iff]
  refine ⟨name :: parent, ?_, rfl⟩
  rw [walk_append, bind_eq_ok_iff]
  exact ⟨parent, walk_set (List.cons_ne_nil _ _) hentry hwalk, by rw [walk, hstep]; rfl⟩

/-- A file is not created at the root. -/
theorem ne_nil_of_target {p : Path} (h : tree.target p = .ok location) : location ≠ [] := by
  obtain ⟨_, _, _, _, _, _, _, _, hnew⟩ := target_eq_ok_iff.mp h
  obtain ⟨rfl, _⟩ := newFile_eq_ok_iff.mp hnew
  exact List.cons_ne_nil _ _

/-- A file holds what it is created with. -/
theorem readBytes_set_target {p : Path} {content : ByteArray} (h : tree.target p = .ok location) :
    (tree.set location (.file content)).readBytes p = .ok content := by
  rw [readBytes, bind_eq_ok_iff]
  refine ⟨location, locate_set_target h, ?_⟩
  rw [get?_set tree _ (ne_nil_of_target h), if_pos rfl]

/-- **What is written at a path is read there.** -/
theorem readText_writeText {p : Path} {text : String} {changed : FileTree}
    (h : tree.writeText p text = .ok changed) : changed.readText p = .ok text := by
  simp only [writeText, bind_eq_ok_iff] at h
  obtain ⟨location, htarget, heq⟩ := h
  obtain rfl := Except.ok.inj heq
  rw [readText, readBytes_set_target htarget]
  exact decodeText_toUTF8 text

end ClusterConfig.FileTree
