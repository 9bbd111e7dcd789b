/-
# Runs in any order

The configurations of a cluster are generated by one run for each node, and every run changes the
file tree that the next one reads. Main statement: over one base it does not matter in which order
the runs are made and how often each of them is (`runAll_eq_of_same_members`). Every run reports
what it would report on the first tree, and the last tree is always the same.

A run writes at most one file, `config` in the directory of its node, which is in the directory that
the base leads to. So no run reads a file that another one writes. It does not pass through one
either: a file is only written where no directory is, and every name that is passed through is a
directory's (`FileTree.sameAt_base`).
-/
import Mathlib.Data.List.Basic
import ClusterConfig.Proofs.Agreement
import ClusterConfig.Proofs.FileTree.Below

namespace ClusterConfig

open ClusterConfig.Path (IsPlainName)

/-! ## Writing a configuration -/

namespace FileTree

variable {tree : FileTree} {base : Path} {root : Location} {index other : Nat} {name : String}

/-- The location of the configuration of a node, in the directory that the base leads to. -/
def configAt (root : Location) (index : Nat) : Location :=
  "config" :: Site.directoryName index :: root

/-- The tree after a text is written at a location. -/
def writeAt (tree : FileTree) (write : Location × String) : FileTree :=
  tree.set write.1 (.file write.2.toUTF8)

/-- A configuration is created in the directory of its node, which is in the directory that the base
leads to. -/
theorem exists_eq_configAt_of_target {location : Location}
    (h : tree.target (Site.ofIndex base index).config = .ok location) :
    ∃ root, tree.enter base = .ok root ∧ location = configAt root index ∧
      tree.get? location ≠ some .directory := by
  have hconfig : IsPlainName "config" := by decide
  have hdirectory := Site.isPlainName_directoryName index
  rw [Site.config_ofIndex, target_join hconfig] at h
  simp only [bind_eq_ok_iff] at h
  obtain ⟨_, -, parent, hparent, _, -, hnew⟩ := h
  rw [enter_join hdirectory, bind_eq_ok_iff] at hparent
  obtain ⟨root, hroot, hstep⟩ := hparent
  obtain ⟨-, -, -, rfl⟩ := (step_eq_ok_iff hdirectory).mp hstep
  obtain ⟨rfl, -, -, -, hentry⟩ := newFile_eq_ok_iff.mp hnew
  exact ⟨root, hroot, rfl, hentry⟩

/-- A written configuration is found in its place. -/
theorem get?_writeAt_self {text : String} :
    (tree.writeAt (configAt root index, text)).get? (configAt root index) =
      some (.file text.toUTF8) := by
  have hlocation : configAt root index ≠ [] := List.cons_ne_nil _ _
  exact (get?_set tree _ hlocation _).trans (if_pos rfl)

/-- A written configuration leaves every other location as it was. -/
theorem get?_writeAt_of_ne {text : String} {place : Location} (h : place ≠ configAt root index) :
    tree.get? place = (tree.writeAt (configAt root index, text)).get? place := by
  have hlocation : configAt root index ≠ [] := List.cons_ne_nil _ _
  exact ((get?_set tree _ hlocation place).trans (if_neg h)).symm

/-- A location that is not two names below the root of the cluster is not a configuration's. -/
theorem ne_configAt_of_length {place : Location} (h : place.length ≠ root.length + 2) :
    place ≠ configAt root index := by
  rintro rfl
  exact h rfl

section

variable {text : String} (hroot : tree.enter base = .ok root)
  (hentry : tree.get? (configAt root index) ≠ some .directory)
include hroot hentry

/-- After a configuration is written, the base leads to the same directory. -/
theorem sameAt_base : SameAt tree (tree.writeAt (configAt root index, text)) base := by
  constructor
  case enter_eq =>
    rw [hroot]
    exact (walk_set (List.cons_ne_nil _ _) hentry hroot).symm
  case get?_eq =>
    intro place hplace
    obtain rfl : root = place := Except.ok.inj (hroot.symm.trans hplace)
    exact get?_writeAt_of_ne (ne_configAt_of_length (by omega))

/-- After a configuration is written, a name below the base leads where it did. -/
theorem sameAt_join_base (h : IsPlainName name) :
    SameAt tree (tree.writeAt (configAt root index, text)) (base.join name) := by
  refine (sameAt_base hroot hentry).join h ?_
  intro place hplace
  obtain rfl : root = place := Except.ok.inj (hroot.symm.trans hplace)
  apply get?_writeAt_of_ne
  apply ne_configAt_of_length
  rw [List.length_cons]
  omega

/-- After a configuration is written, a file of the cluster reads as it did. -/
theorem readText_clusterFile (h : IsPlainName name) :
    tree.readText ((Site.ofIndex base other).clusterFile name) =
      (tree.writeAt (configAt root index, text)).readText
        ((Site.ofIndex base other).clusterFile name) :=
  (sameAt_join_base hroot hentry h).readText_eq h

/-- After a configuration is written, a file of a node that is not a configuration reads as it
did. -/
theorem readText_nodeFile (h : IsPlainName name) (hne : name ≠ "config") :
    tree.readText ((Site.ofIndex base other).nodeFile name) =
      (tree.writeAt (configAt root index, text)).readText
        ((Site.ofIndex base other).nodeFile name) := by
  have hdirectory : SameAt tree (tree.writeAt (configAt root index, text))
      (base.join (Site.directoryName other)) :=
    sameAt_join_base hroot hentry (Site.isPlainName_directoryName other)
  have hfile : SameAt tree (tree.writeAt (configAt root index, text))
      ((base.join (Site.directoryName other)).join name) := by
    apply hdirectory.join h
    intro place hplace
    apply get?_writeAt_of_ne
    intro heq
    exact hne (List.cons.inj heq).1
  rw [Site.nodeFile_ofIndex]
  exact hfile.readText_eq h

/-- After a configuration is written, every configuration is written in the same place. -/
theorem target_config :
    tree.target (Site.ofIndex base other).config =
      (tree.writeAt (configAt root index, text)).target (Site.ofIndex base other).config := by
  have hconfig : IsPlainName "config" := by decide
  have hdirectory : SameAt tree (tree.writeAt (configAt root index, text))
      (base.join (Site.directoryName other)) :=
    sameAt_join_base hroot hentry (Site.isPlainName_directoryName other)
  rw [Site.config_ofIndex]
  refine hdirectory.target_eq hconfig ?_
  intro place hplace
  -- In its own place a file has taken the place of what was no directory either.
  by_cases heq : "config" :: place = configAt root index
  · rw [heq, get?_writeAt_self]
    simp [hentry]
  · rw [← get?_writeAt_of_ne heq]

end

/-! ## Writes one after the other -/

/-- The tree after a list of writes. -/
def writeAll (tree : FileTree) (writes : List (Location × String)) : FileTree :=
  writes.foldl writeAt tree

/-- A location that nothing is written at stays as it was. -/
theorem writeAll_of_not_mem {writes : List (Location × String)} {location : Location}
    (h : ∀ write ∈ writes, write.1 ≠ location) :
    (tree.writeAll writes).entries[location]? = tree.entries[location]? := by
  induction writes generalizing tree with
  | nil => rfl
  | cons write writes ih =>
    have hne : write.1 ≠ location := h write List.mem_cons_self
    rw [writeAll, List.foldl_cons, ← writeAll,
      ih fun other hother => h other (List.mem_cons_of_mem write hother)]
    simp [writeAt, set, Std.ExtTreeMap.getElem?_insert, hne]

/-- A location that only one text is written at holds it in the end. -/
theorem writeAll_of_mem {writes : List (Location × String)} {location : Location} {text : String}
    (hmem : (location, text) ∈ writes)
    (hone : ∀ write ∈ writes, write.1 = location → write = (location, text)) :
    (tree.writeAll writes).entries[location]? = some (.file text.toUTF8) := by
  induction writes generalizing tree with
  | nil => exact absurd hmem List.not_mem_nil
  | cons write writes ih =>
    rw [writeAll, List.foldl_cons, ← writeAll]
    have hmore : ∀ other ∈ writes, other.1 = location → other = (location, text) :=
      fun other hother => hone other (List.mem_cons_of_mem write hother)
    by_cases hlater : (location, text) ∈ writes
    · exact ih hlater hmore
    · -- The first write is the last one at its location.
      obtain rfl : (location, text) = write := (List.mem_cons.mp hmem).resolve_right hlater
      rw [writeAll_of_not_mem]
      · simp [writeAt, set]
      · intro other hother heq
        exact hlater (hmore other hother heq ▸ hother)

/-- Writes that agree on their locations lead to a tree that depends only on what is written, and
not on the order and on how often. -/
theorem writeAll_congr {writes others : List (Location × String)}
    (hsame : ∀ write, write ∈ others ↔ write ∈ writes)
    (hone : ∀ first ∈ writes, ∀ second ∈ writes, first.1 = second.1 → first = second) :
    tree.writeAll others = tree.writeAll writes := by
  have hdirectory (writes : List (Location × String)) (tree : FileTree) :
      (tree.writeAll writes).workingDirectory = tree.workingDirectory := by
    induction writes generalizing tree with
    | nil => rfl
    | cons write writes ih => exact ih (tree.writeAt write)
  apply ext
  · intro location
    by_cases hwritten : ∃ text, (location, text) ∈ writes
    · obtain ⟨text, hmem⟩ := hwritten
      have hlocation : ∀ write ∈ writes, write.1 = location → write = (location, text) :=
        fun write hwrite heq => hone write hwrite (location, text) hmem heq
      rw [writeAll_of_mem hmem hlocation, writeAll_of_mem ((hsame _).mpr hmem)]
      exact fun write hwrite => hlocation write ((hsame write).mp hwrite)
    · have hnone : ∀ write ∈ writes, write.1 ≠ location := by
        rintro write hwrite rfl
        exact hwritten ⟨write.2, hwrite⟩
      rw [writeAll_of_not_mem hnone, writeAll_of_not_mem]
      exact fun write hwrite => hnone write ((hsame write).mp hwrite)
  · rw [hdirectory, hdirectory]

end FileTree

/-! ## One run after another -/

namespace Job

/-- The index of the node that a job is for. -/
def index? (job : Job) : Option Nat :=
  match job.arguments.resolve with
  | .ok (_, site) => some site.index
  | .error _ => none

/-- What a job writes, and where. -/
def write? (job : Job) (tree : FileTree) : Option (Location × String) :=
  match (job.plan tree.readText).result with
  | .error _ => none
  | .ok plan =>
    match tree.target plan.path with
    | .error _ => none
    | .ok location => some (location, plan.document.render)

/-- A job changes the tree by what it writes. -/
theorem generate_tree (job : Job) (tree : FileTree) :
    (job.generate tree).2 = tree.writeAll (job.write? tree).toList := by
  unfold generate write?
  rcases hplan : job.plan tree.readText with ⟨log, failure | plan⟩
  · rfl
  · simp only [Plan.save, FileTree.writeText]
    cases htarget : tree.target plan.path with
    | error fault => rfl
    | ok location => rfl

/-- The document of a job is written to the configuration of its node. -/
theorem exists_site_of_plan {job : Job} {files : FileReader} {plan : Plan}
    (h : (job.plan files).result = .ok plan) :
    ∃ index, job.index? = some index ∧
      plan.path = (Site.ofIndex job.arguments.basePath index).config := by
  obtain ⟨cluster, site, document, hresolve, -, rfl⟩ := plan_eq_ok_iff.mp h
  refine ⟨site.index, by rw [index?, hresolve], ?_⟩
  obtain ⟨index, -, -, -, -, -, -, -, rfl⟩ := Arguments.resolve_eq_ok_iff.mp hresolve
  rfl

/-- What a job writes is the configuration of its node, where no directory is. -/
theorem exists_configAt_of_write? {job : Job} {tree : FileTree} {write : Location × String}
    (h : job.write? tree = some write) :
    ∃ index root, job.index? = some index ∧ tree.enter job.arguments.basePath = .ok root ∧
      write = (FileTree.configAt root index, write.2) ∧
      tree.get? (FileTree.configAt root index) ≠ some .directory := by
  unfold write? at h
  split at h
  case h_1 => contradiction
  case h_2 plan hplan =>
    split at h
    case h_1 => contradiction
    case h_2 location htarget =>
      obtain rfl := Option.some.inj h
      obtain ⟨index, hindex, hpath⟩ := exists_site_of_plan hplan
      rw [hpath] at htarget
      obtain ⟨root, hroot, rfl, hentry⟩ := FileTree.exists_eq_configAt_of_target htarget
      exact ⟨index, root, hindex, hroot, rfl, hentry⟩

section

variable {tree : FileTree} {root : Location} {index : Nat} {text : String} {job : Job}
  (hroot : tree.enter job.arguments.basePath = .ok root)
  (hentry : tree.get? (FileTree.configAt root index) ≠ some .directory)
include hroot hentry

/-- After a configuration is written, a job reads what it would have read before. -/
theorem readText_of_mem_sources {path : Path} (h : path ∈ job.sources) :
    tree.readText path = (tree.writeAt (FileTree.configAt root index, text)).readText path := by
  unfold sources at h
  split at h
  case h_2 => exact absurd h List.not_mem_nil
  case h_1 cluster site hresolve =>
    obtain ⟨other, -, -, -, -, -, -, -, rfl⟩ := Arguments.resolve_eq_ok_iff.mp hresolve
    rcases List.mem_append.mp h with h | h
    · obtain ⟨file, -, rfl⟩ := List.mem_map.mp h
      cases file with
      | minerSecret => exact FileTree.readText_nodeFile hroot hentry (by decide) (by decide)
      | signerSecret => exact FileTree.readText_nodeFile hroot hentry (by decide) (by decide)
      | signers => exact FileTree.readText_clusterFile hroot hentry (by decide)
      | miners => exact FileTree.readText_clusterFile hroot hentry (by decide)
      | keypairs => exact FileTree.readText_clusterFile hroot hentry (by decide)
    · obtain rfl := List.mem_singleton.mp h
      exact FileTree.readText_clusterFile hroot hentry (by decide)

/-- After a configuration is written, a job over the same base reports and writes what it would have
reported and written before. -/
theorem generate_writeAt :
    (job.generate (tree.writeAt (FileTree.configAt root index, text))).1 = (job.generate tree).1 ∧
      job.write? (tree.writeAt (FileTree.configAt root index, text)) = job.write? tree := by
  have hplan : job.plan tree.readText =
      job.plan (tree.writeAt (FileTree.configAt root index, text)).readText :=
    plan_congr fun path hmem => readText_of_mem_sources hroot hentry hmem
  have htarget : ∀ plan, (job.plan tree.readText).result = .ok plan →
      tree.target plan.path =
        (tree.writeAt (FileTree.configAt root index, text)).target plan.path := by
    intro plan hresult
    obtain ⟨other, -, hpath⟩ := exists_site_of_plan hresult
    rw [hpath]
    exact FileTree.target_config hroot hentry
  unfold generate write?
  rw [← hplan]
  rcases hcase : job.plan tree.readText with ⟨log, failure | plan⟩
  · exact ⟨rfl, rfl⟩
  · rw [hcase] at htarget
    simp only [Plan.save, FileTree.writeText, ← htarget plan rfl]
    cases tree.target plan.path with
    | error fault => exact ⟨rfl, trivial⟩
    | ok location => exact ⟨rfl, trivial⟩

end

/-- **One run changes nothing for the next one.** After a job has run, a job over the same base
reports and writes what it would have reported and written before. -/
theorem generate_of_generate {first second : Job} (tree : FileTree)
    (hbase : second.arguments.basePath = first.arguments.basePath) :
    (second.generate (first.generate tree).2).1 = (second.generate tree).1 ∧
      second.write? (first.generate tree).2 = second.write? tree := by
  rw [generate_tree]
  cases hwrite : first.write? tree with
  | none => exact ⟨rfl, rfl⟩
  | some write =>
    obtain ⟨index, root, -, hroot, heq, hentry⟩ := exists_configAt_of_write? hwrite
    rw [heq]
    exact generate_writeAt (hbase ▸ hroot) hentry

/-- Runs jobs one after another, with their reports. -/
def runAll : List Job → FileTree → List (Logged Path) × FileTree
  | [], tree => ([], tree)
  | job :: jobs, tree =>
    let (report, changed) := job.generate tree
    let (reports, last) := runAll jobs changed
    (report :: reports, last)

/-- Jobs over one base that run one after another report what each of them would report on the first
tree, and the last tree holds what each of them would write there. -/
theorem runAll_eq {base : Path} {jobs : List Job}
    (hbase : ∀ job ∈ jobs, job.arguments.basePath = base) (tree : FileTree) :
    runAll jobs tree =
      (jobs.map fun job => (job.generate tree).1,
        tree.writeAll (jobs.filterMap (·.write? tree))) := by
  -- The tree changes along the list, but no later job notices what the first one has written.
  induction jobs generalizing tree with
  | nil => rfl
  | cons job jobs ih =>
    have hmore : ∀ other ∈ jobs, other.arguments.basePath = base :=
      fun other hother => hbase other (List.mem_cons_of_mem job hother)
    have hsame : ∀ other ∈ jobs, other.arguments.basePath = job.arguments.basePath :=
      fun other hother => (hmore other hother).trans (hbase job List.mem_cons_self).symm
    show ((job.generate tree).1 :: (runAll jobs (job.generate tree).2).1,
      (runAll jobs (job.generate tree).2).2) = _
    rw [ih hmore (job.generate tree).2]
    have hreports : (jobs.map fun other => (other.generate (job.generate tree).2).1) =
        jobs.map fun other => (other.generate tree).1 :=
      List.map_congr_left fun other hother => (generate_of_generate tree (hsame other hother)).1
    have hwrites : jobs.filterMap (·.write? (job.generate tree).2) =
        jobs.filterMap (·.write? tree) :=
      List.filterMap_congr fun other hother => (generate_of_generate tree (hsame other hother)).2
    rw [hreports, hwrites, generate_tree, List.map_cons, List.filterMap_cons]
    cases job.write? tree with
    | none => rfl
    | some write => rfl

/-- Jobs for different nodes write in different places, so jobs that are the same for each node
agree on what they write. -/
theorem write?_eq_of_location_eq {base : Path} {jobs : List Job} {tree : FileTree}
    (hbase : ∀ job ∈ jobs, job.arguments.basePath = base)
    (hone : ∀ first ∈ jobs, ∀ second ∈ jobs, ∀ index,
      first.index? = some index → second.index? = some index → first = second) :
    ∀ first ∈ jobs.filterMap (·.write? tree), ∀ second ∈ jobs.filterMap (·.write? tree),
      first.1 = second.1 → first = second := by
  intro first hfirst second hsecond hlocation
  obtain ⟨job, hjob, hwrite⟩ := List.mem_filterMap.mp hfirst
  obtain ⟨other, hother, hwrite'⟩ := List.mem_filterMap.mp hsecond
  obtain ⟨index, root, hindex, hroot, heq, -⟩ := exists_configAt_of_write? hwrite
  obtain ⟨index', root', hindex', hroot', heq', -⟩ := exists_configAt_of_write? hwrite'
  rw [hbase job hjob] at hroot
  rw [hbase other hother] at hroot'
  obtain rfl : root = root' := Except.ok.inj (hroot.symm.trans hroot')
  rw [heq, heq'] at hlocation
  -- The second name of the location is that of the directory of the node.
  have hname : Site.directoryName index = Site.directoryName index' :=
    (List.cons.inj (List.cons.inj hlocation).2).1
  obtain rfl := Site.directoryName_injective hname
  obtain rfl := hone job hjob other hother index hindex hindex'
  exact Option.some.inj (hwrite.symm.trans hwrite')

/-- **The order of the runs does not matter, and repeating a run changes nothing.** Over one base,
and with one job for each node, every list of the same jobs reports for each of them what it would
report on the first tree, and all of them lead to the same tree. -/
theorem runAll_eq_of_same_members {base : Path} {jobs : List Job}
    (hbase : ∀ job ∈ jobs, job.arguments.basePath = base)
    (hone : ∀ first ∈ jobs, ∀ second ∈ jobs, ∀ index,
      first.index? = some index → second.index? = some index → first = second)
    (tree : FileTree) {others : List Job} (hsame : ∀ job, job ∈ others ↔ job ∈ jobs) :
    runAll others tree = (others.map fun job => (job.generate tree).1, (runAll jobs tree).2) := by
  have hbase' : ∀ job ∈ others, job.arguments.basePath = base :=
    fun job hjob => hbase job ((hsame job).mp hjob)
  have hwrites : ∀ write, write ∈ others.filterMap (·.write? tree) ↔
      write ∈ jobs.filterMap (·.write? tree) := by
    intro write
    simp only [List.mem_filterMap, hsame]
  rw [runAll_eq hbase tree, runAll_eq hbase' tree,
    FileTree.writeAll_congr hwrites (write?_eq_of_location_eq hbase hone)]

/-- One job for each of two nodes, with different options. -/
def pairJobs : List Job :=
  [⟨Document.pairArguments, .keypair, {}⟩,
    ⟨Document.pairArguments.forNode "+1", .keypair, ⟨20, 2, some 64⟩⟩]

/-- The jobs of two nodes lead to the same tree when they are repeated the other way round. -/
theorem runAll_pairJobs :
    (∀ job ∈ pairJobs, job.arguments.basePath = ⟨"c"⟩) ∧
    (∀ first ∈ pairJobs, ∀ second ∈ pairJobs, ∀ index,
      first.index? = some index → second.index? = some index → first = second) ∧
    runAll (pairJobs ++ pairJobs.reverse) Document.pairTree =
      ((pairJobs ++ pairJobs.reverse).map fun job => (job.generate Document.pairTree).1,
        (runAll pairJobs Document.pairTree).2) := by
  have hbase : ∀ job ∈ pairJobs, job.arguments.basePath = ⟨"c"⟩ := by decide
  have hindex : ∀ first ∈ pairJobs, ∀ second ∈ pairJobs,
      first.index? = second.index? → first = second := by decide +kernel
  have hone : ∀ first ∈ pairJobs, ∀ second ∈ pairJobs, ∀ index,
      first.index? = some index → second.index? = some index → first = second :=
    fun first hfirst second hsecond index h h' =>
      hindex first hfirst second hsecond (h.trans h'.symm)
  have hsame : ∀ job, job ∈ pairJobs ++ pairJobs.reverse ↔ job ∈ pairJobs := by
    intro job
    rw [List.mem_append, List.mem_reverse, or_self]
  exact ⟨hbase, hone, runAll_eq_of_same_members hbase hone Document.pairTree hsame⟩

end Job

end ClusterConfig
