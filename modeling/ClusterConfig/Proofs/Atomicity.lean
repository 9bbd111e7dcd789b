/-
# A run writes one file or nothing

Everything that a job needs is read and checked before anything is written. Main statement: a run
that fails, for whatever reason, leaves the file tree as it was, and a run that succeeds leaves it
as it was but for the configuration of its node, which holds the document of the job
(`Job.unchanged_or_written`). No directory is ever created, and nothing is left of what the
configuration held before.
-/
import ClusterConfig.Job

namespace ClusterConfig

namespace FileTree

/-- A tree after a file has been written at a path: the file holds the content, and everything else
is as it was before. -/
structure WrittenAt (before after : FileTree) (path : Path) (content : ByteArray) : Prop where
  readBytes_eq : after.readBytes path = .ok content
  /-- The path leads to one place, where no directory was. -/
  onePlace : ∃ location, after.locate path = .ok location ∧
    before.get? location ≠ some .directory ∧
    ∀ place, after.get? place = if place = location then some (.file content) else before.get? place
  directory_iff : ∀ place, after.get? place = some .directory ↔ before.get? place = some .directory
  workingDirectory_eq : after.workingDirectory = before.workingDirectory

/-- A file that is created at a path is written there. -/
theorem writtenAt_set_target {tree : FileTree} {path : Path} {location : Location}
    {content : ByteArray} (h : tree.target path = .ok location) :
    tree.WrittenAt (tree.set location (.file content)) path content := by
  obtain ⟨_, _, _, _, _, _, _, _, hnew⟩ := target_eq_ok_iff.mp h
  obtain ⟨-, -, -, -, hentry⟩ := newFile_eq_ok_iff.mp hnew
  have hget (place : Location) := get?_set tree (.file content) (ne_nil_of_target h) place
  constructor
  case readBytes_eq => exact readBytes_set_target h
  case onePlace => exact ⟨location, locate_set_target h, hentry, hget⟩
  case directory_iff =>
    intro place
    rw [hget]
    split
    · next heq => simp [heq, hentry]
    · exact Iff.rfl
  case workingDirectory_eq => rfl

end FileTree

namespace Job

/-- **A run writes one file or nothing.** A run that fails leaves the file tree as it was; it fails
because it could not be planned, or because the configuration could not be created. A run that
succeeds ends with the path of the configuration of its node, where it has written the document that
is assembled from the tree before. -/
theorem unchanged_or_written (job : Job) (tree : FileTree) :
    (∃ failure, (job.generate tree).1.result = .error failure ∧ (job.generate tree).2 = tree ∧
      ((job.plan tree.readText).result = .error failure ∨
        ∃ plan fault, (job.plan tree.readText).result = .ok plan ∧
          tree.target plan.path = .error fault ∧ failure = .unwritable plan.path fault)) ∨
    ∃ cluster site document,
      job.arguments.resolve = .ok (cluster, site) ∧
      (Document.assemble tree.readText job.layout cluster site job.options).result =
        .ok document ∧
      (job.generate tree).1.result = .ok site.config ∧
      site.config = (job.arguments.basePath.join (Site.directoryName site.index)).join "config" ∧
      tree.WrittenAt (job.generate tree).2 site.config document.render.toUTF8 := by
  have hreport : (job.generate tree).1.result =
      (job.plan tree.readText).result.bind fun plan =>
        (plan.conclude ((tree.target plan.path).map fun _ => ())).result := by
    rw [generate_report, Logged.result_bind]
  cases hplan : (job.plan tree.readText).result with
  | error failure =>
    rw [hplan] at hreport
    exact Or.inl ⟨failure, hreport, generate_tree_of_error hreport, Or.inl rfl⟩
  | ok plan =>
    rw [hplan] at hreport
    cases htarget : tree.target plan.path with
    | error fault =>
      have hfailure : (job.generate tree).1.result = .error (.unwritable plan.path fault) := by
        rw [hreport, Except.bind, htarget]
        rfl
      exact Or.inl ⟨_, hfailure, generate_tree_of_error hfailure,
        Or.inr ⟨plan, fault, rfl, htarget, rfl⟩⟩
    | ok location =>
      obtain ⟨hresult, htree⟩ := generate_tree_of_plan hplan htarget
      obtain ⟨cluster, site, document, hresolve, hdocument, rfl⟩ := plan_eq_ok_iff.mp hplan
      obtain ⟨index, -, -, -, -, -, -, -, rfl⟩ := Arguments.resolve_eq_ok_iff.mp hresolve
      refine Or.inr ⟨cluster, _, document, hresolve, hdocument, hresult, rfl, ?_⟩
      rw [htree]
      exact FileTree.writtenAt_set_target htarget

end Job

end ClusterConfig
