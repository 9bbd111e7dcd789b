/-
# Files below a base

The files of a cluster are found below a base, which can be any path: it may lead up, stay where it
stands, or pass through the directory of a node. Main statements: a file below a base is read, and
is created, in the directory that the base leads to (`readBytes_join`, `target_join`); and two trees
that show the same on the way to a file read the same at it (`SameAt.readText_eq`) and create it in
the same place (`SameAt.target_eq`).
-/
import ClusterConfig.FileTree.Lemmas

namespace ClusterConfig.FileTree

open ClusterConfig.Path (IsPlainName)

variable {tree first second : FileTree} {place location : Location} {base : Path} {name : String}

/-! ## Following a path and a name -/

/-- Where the names of a path lead, whatever stands there. -/
def enter (tree : FileTree) (p : Path) : Except IoFault Location :=
  tree.walk (tree.start p) p.components

/-- A single name is followed in one step. -/
theorem walk_singleton (tree : FileTree) (place : Location) (name : String) :
    tree.walk place [name] = tree.step place name := by
  rw [walk]
  cases tree.step place name with
  | error fault => rfl
  | ok next => rfl

/-- A path that ends in a plain name is followed up to its base, and then by one step. -/
theorem enter_join (h : IsPlainName name) :
    tree.enter (base.join name) = (do tree.step (← tree.enter base) name) := by
  have hstart : tree.start (base.join name) = tree.start base := by
    rw [start, start, Path.isAbsolute_join h]
  rw [enter, hstart, Path.components_join h, walk_append, enter]
  simp only [walk_singleton]

/-- A plain name in a directory leads to what has the name there. -/
theorem step_eq_ok_iff (h : IsPlainName name) :
    tree.step place name = .ok location ↔
      tree.get? place = some .directory ∧ name.utf8ByteSize ≤ Path.maxNameLength ∧
        tree.get? (name :: place) ≠ none ∧ location = name :: place := by
  obtain ⟨-, hdot, hdots⟩ := h.ne
  have hlookup : tree.lookup place name = .ok location ↔
      name.utf8ByteSize ≤ Path.maxNameLength ∧ tree.get? (name :: place) ≠ none ∧
        location = name :: place := by
    rw [lookup, if_neg hdot, if_neg hdots]
    split
    · next hlong => simp [Nat.not_le.mpr hlong]
    · next hlength =>
      split
      · next hnone => simp [hnone]
      · next hfound => simp [hfound, Nat.le_of_not_lt hlength, eq_comm]
  rw [step, bind_eq_ok_iff]
  constructor
  · rintro ⟨_, hcheck, h⟩
    exact ⟨checkDirectory_eq_ok_iff.mp hcheck, hlookup.mp h⟩
  · rintro ⟨hdirectory, h⟩
    exact ⟨(), checkDirectory_eq_ok_iff.mpr hdirectory, hlookup.mpr h⟩

/-- A name that nothing has in a directory is not found there. -/
theorem step_of_get?_eq_none (h : IsPlainName name)
    (hlength : name.utf8ByteSize ≤ Path.maxNameLength)
    (hdirectory : tree.get? place = some .directory) (hnone : tree.get? (name :: place) = none) :
    tree.step place name = .error .notFound := by
  obtain ⟨-, hdot, hdots⟩ := h.ne
  rw [step, checkDirectory_eq_ok_iff.mpr hdirectory]
  show tree.lookup place name = .error .notFound
  rw [lookup, if_neg hdot, if_neg hdots, if_neg (Nat.not_lt.mpr hlength), if_pos hnone]

/-! ## Reading and writing below a base -/

/-- A path is followed when it is neither empty nor too long. -/
theorem check_eq_ok_iff {p : Path} :
    p.check = .ok () ↔ p.text.utf8ByteSize < Path.maxLength ∧ p.text ≠ "" := by
  rw [Path.check]
  split
  · next hlong => simp [Nat.not_lt.mpr hlong]
  · next hlength =>
    split
    · next hempty => simp [hempty]
    · next hne => simp [hne, Nat.lt_of_not_le hlength]

/-- A path below a base can be followed when one with a longer name can. -/
theorem check_join_of_le {longer : String} (h : IsPlainName name) (hlonger : IsPlainName longer)
    (hle : name.utf8ByteSize ≤ longer.utf8ByteSize) (hcheck : (base.join longer).check = .ok ()) :
    (base.join name).check = .ok () := by
  obtain ⟨hlength, -⟩ := check_eq_ok_iff.mp hcheck
  have hsize : (base.join name).text.utf8ByteSize =
      base.text.utf8ByteSize + base.separator.utf8ByteSize + name.utf8ByteSize :=
    Path.utf8ByteSize_join h
  have hpositive : name.utf8ByteSize ≠ 0 :=
    fun hzero => h.ne.1 (String.utf8ByteSize_eq_zero_iff.mp hzero)
  rw [Path.utf8ByteSize_join hlonger] at hlength
  refine check_eq_ok_iff.mpr ⟨by omega, ?_⟩
  intro hempty
  rw [hempty, String.utf8ByteSize_empty] at hsize
  omega

/-- A path that ends in a plain name leads to what its names lead to. -/
theorem locate_join (h : IsPlainName name) :
    tree.locate (base.join name) =
      (do (base.join name).check; tree.enter (base.join name)) := by
  rw [locate, Path.endsInSlash_join h, enter]
  simp

/-- What is read at a path is what stands where it leads to. -/
theorem readBytes_of_locate {p : Path} (h : tree.locate p = .ok location) :
    tree.readBytes p =
      match tree.get? location with
      | some (.file content) => .ok content
      | some .directory => .error .isDirectory
      | none => .error .notFound := by
  rw [readBytes, h]
  rfl

/-- What stands at a name in the directory that a base leads to is what is read. -/
theorem readBytes_join (h : IsPlainName name) (hlength : name.utf8ByteSize ≤ Path.maxNameLength)
    (hcheck : (base.join name).check = .ok ()) (henter : tree.enter base = .ok place)
    (hdirectory : tree.get? place = some .directory) :
    tree.readBytes (base.join name) =
      match tree.get? (name :: place) with
      | some (.file content) => .ok content
      | some .directory => .error .isDirectory
      | none => .error .notFound := by
  have hlocate : tree.locate (base.join name) = tree.step place name := by
    rw [locate_join h, hcheck, enter_join h, henter]
    rfl
  by_cases hnone : tree.get? (name :: place) = none
  · have hstep := step_of_get?_eq_none h hlength hdirectory hnone
    rw [readBytes, hlocate, hstep, hnone]
    rfl
  · have hstep : tree.step place name = .ok (name :: place) :=
      (step_eq_ok_iff h).mpr ⟨hdirectory, hlength, hnone, rfl⟩
    exact readBytes_of_locate (hlocate.trans hstep)

/-- A file that is read below a base is found in a directory. -/
theorem exists_directory_of_readText {text : String} (h : IsPlainName name)
    (hread : tree.readText (base.join name) = .ok text) :
    (base.join name).check = .ok () ∧
      ∃ place, tree.enter base = .ok place ∧ tree.get? place = some .directory := by
  simp only [readText, readBytes, bind_eq_ok_iff] at hread
  obtain ⟨_, ⟨location, hlocate, -⟩, -⟩ := hread
  rw [locate_join h, bind_eq_ok_iff] at hlocate
  obtain ⟨_, hcheck, henter⟩ := hlocate
  rw [enter_join h, bind_eq_ok_iff] at henter
  obtain ⟨place, henter, hstep⟩ := henter
  exact ⟨hcheck, place, henter, ((step_eq_ok_iff h).mp hstep).1⟩

/-- A file below a base is created in the directory that the base leads to. -/
theorem target_join (h : IsPlainName name) :
    tree.target (base.join name) = (do
      (base.join name).check
      let parent ← tree.enter base
      tree.checkDirectory parent
      tree.newFile parent name) := by
  have hstart : tree.start (base.join name) = tree.start base := by
    rw [start, start, Path.isAbsolute_join h]
  rw [target, Path.components_join h, List.reverse_append, hstart, Path.endsInSlash_join h]
  simp [enter]

/-- Beside a file that is read, a file with a name that is not longer can be created unless a
directory has the name. -/
theorem exists_target_beside {beside text : String} (h : IsPlainName name)
    (hbeside : IsPlainName beside) (hlength : name.utf8ByteSize ≤ Path.maxNameLength)
    (hle : name.utf8ByteSize ≤ beside.utf8ByteSize)
    (hread : tree.readText (base.join beside) = .ok text)
    (hfree : (∃ content, tree.readBytes (base.join name) = .ok content) ∨
      tree.readBytes (base.join name) = .error .notFound) :
    ∃ location, tree.target (base.join name) = .ok location := by
  obtain ⟨hlonger, place, hplace, hdirectory⟩ := exists_directory_of_readText hbeside hread
  have hcheck : (base.join name).check = .ok () := check_join_of_le h hbeside hle hlonger
  -- A directory would have been reported when the name was read.
  have hentry : tree.get? (name :: place) ≠ some .directory := by
    intro hentry
    have hbytes : tree.readBytes (base.join name) = .error .isDirectory := by
      rw [readBytes_join h hlength hcheck hplace hdirectory, hentry]
    rw [hbytes] at hfree
    rcases hfree with ⟨content, hfile⟩ | habsent
    · contradiction
    · exact absurd (Except.error.inj habsent) (by decide)
  have hnew : tree.newFile place name = .ok (name :: place) :=
    newFile_eq_ok_iff.mpr ⟨rfl, h.ne.2.1, h.ne.2.2, hlength, hentry⟩
  refine ⟨name :: place, ?_⟩
  rw [target_join h, hcheck, hplace]
  show (do tree.checkDirectory place; tree.newFile place name) = .ok (name :: place)
  rw [checkDirectory_eq_ok_iff.mpr hdirectory, hnew]
  rfl

/-! ## Trees that show the same at a path -/

/-- Two trees show the same at a path when it leads to the same place in both of them, and the same
stands there. -/
structure SameAt (first second : FileTree) (p : Path) : Prop where
  enter_eq : first.enter p = second.enter p
  get?_eq : ∀ place, first.enter p = .ok place → first.get? place = second.get? place

/-- Trees that show the same at a path look a name up there with the same outcome. -/
theorem step_congr (hplace : first.get? place = second.get? place)
    (hname : first.get? (name :: place) = second.get? (name :: place)) :
    first.step place name = second.step place name := by
  simp only [step, checkDirectory, lookup, hplace, hname]

namespace SameAt

/-- Trees that show the same at a path show the same at a name below it when the same has the name
there. -/
theorem join (h : IsPlainName name) (hbase : SameAt first second base)
    (hname : ∀ place, first.enter base = .ok place →
      first.get? (name :: place) = second.get? (name :: place)) :
    SameAt first second (base.join name) := by
  constructor
  case enter_eq =>
    rw [enter_join h, enter_join h, ← hbase.enter_eq]
    cases henter : first.enter base with
    | error fault => rfl
    | ok place => exact step_congr (hbase.get?_eq place henter) (hname place henter)
  case get?_eq =>
    intro location hlocation
    rw [enter_join h, bind_eq_ok_iff] at hlocation
    obtain ⟨place, henter, hstep⟩ := hlocation
    obtain ⟨-, -, -, rfl⟩ := (step_eq_ok_iff h).mp hstep
    exact hname place henter

/-- The same is read at a file that two trees show the same at. -/
theorem readText_eq (h : IsPlainName name) (hfile : SameAt first second (base.join name)) :
    first.readText (base.join name) = second.readText (base.join name) := by
  have hlocate : first.locate (base.join name) = second.locate (base.join name) := by
    rw [locate_join h, locate_join h, hfile.enter_eq]
  have hbytes : first.readBytes (base.join name) = second.readBytes (base.join name) := by
    cases hfirst : first.locate (base.join name) with
    | error fault =>
      rw [readBytes, readBytes, ← hlocate, hfirst]
      rfl
    | ok place =>
      have henter : first.enter (base.join name) = .ok place := by
        rw [locate_join h, bind_eq_ok_iff] at hfirst
        obtain ⟨_, -, henter⟩ := hfirst
        exact henter
      rw [readBytes_of_locate hfirst, readBytes_of_locate (hlocate ▸ hfirst),
        hfile.get?_eq place henter]
  rw [readText, readText, hbytes]

/-- A file is created in the same place when the two trees show the same at its directory, and both
or neither have a directory in the way. -/
theorem target_eq (h : IsPlainName name) (hbase : SameAt first second base)
    (hway : ∀ place, first.enter base = .ok place →
      (first.get? (name :: place) = some .directory ↔
        second.get? (name :: place) = some .directory)) :
    first.target (base.join name) = second.target (base.join name) := by
  rw [target_join h, target_join h, ← hbase.enter_eq]
  cases (base.join name).check with
  | error fault => rfl
  | ok _ =>
    cases henter : first.enter base with
    | error fault => rfl
    | ok place =>
      show (do first.checkDirectory place; first.newFile place name) =
        (do second.checkDirectory place; second.newFile place name)
      simp only [checkDirectory, newFile, hbase.get?_eq place henter, hway place henter]

end SameAt

end ClusterConfig.FileTree
