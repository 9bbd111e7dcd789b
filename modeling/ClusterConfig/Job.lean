/-
# Generating the configuration of a node

A job is all that a run is told. It is first planned, which reads files but changes nothing, and
the planned document is then written as the last step. So a job that fails leaves the file tree
as it was, and one that succeeds changes exactly one file.

Main statement: the tree after a job differs from the tree before only when the job succeeds
(`generate_tree_of_error`).
-/
import ClusterConfig.Arguments
import ClusterConfig.Document.Assembly
import ClusterConfig.FileTree.Lemmas

namespace ClusterConfig

/-- All that a run is told. -/
structure Job where
  arguments : Arguments
  layout : KeyLayout := .authority
  options : Options := {}
  deriving DecidableEq, Repr

/-- A document and the path that it is to be written to. -/
structure Plan where
  path : Path
  document : Document
  deriving DecidableEq, Repr

namespace Plan

/-- The end of a run, once the document has been written or not. -/
def conclude (plan : Plan) : Except IoFault Unit → Logged Path
  | .error fault => ⟨[], .error (.unwritable plan.path fault)⟩
  | .ok () =>
    ⟨[.written plan.path plan.document.peers.length plan.document.keygroups.length], .ok plan.path⟩

/-- Writes the document of a plan to its path. -/
def save (plan : Plan) (tree : FileTree) : Logged Path × FileTree :=
  match tree.writeText plan.path plan.document.render with
  | .error fault => (plan.conclude (.error fault), tree)
  | .ok changed => (plan.conclude (.ok ()), changed)

end Plan

namespace Job

/-- The files that a job may read. -/
def sources (job : Job) : List Path :=
  match job.arguments.resolve with
  | .ok (_, site) => job.layout.files.map (·.path site) ++ [site.timeServers]
  | .error _ => []

/-- Plans a job with the files that a reader gives. -/
def plan (job : Job) (files : FileReader) : Logged Plan := do
  let (cluster, site) ← Logged.ofExcept job.arguments.resolve
  Logged.note (.resolved site.index cluster.size job.layout)
  let document ← Document.assemble files job.layout cluster site job.options
  return { path := site.config, document }

/-- A plan depends on nothing but the files that the job may read. -/
theorem plan_congr {job : Job} {first second : FileReader}
    (h : ∀ path ∈ job.sources, first path = second path) : job.plan first = job.plan second := by
  unfold plan sources at *
  cases hresolve : job.arguments.resolve with
  | error failure => rfl
  | ok resolved =>
    obtain ⟨cluster, site⟩ := resolved
    simp only [hresolve] at h
    have hassemble : Document.assemble first job.layout cluster site job.options =
        Document.assemble second job.layout cluster site job.options :=
      Document.assemble_congr h
    simp [Logged.ofExcept, hassemble]

/-- A job is planned when its arguments are resolved and its document is assembled. -/
theorem plan_eq_ok_iff {job : Job} {files : FileReader} {plan : Plan} :
    (job.plan files).result = .ok plan ↔
      ∃ cluster site document, job.arguments.resolve = .ok (cluster, site) ∧
        (Document.assemble files job.layout cluster site job.options).result = .ok document ∧
        ⟨site.config, document⟩ = plan := by
  rw [Job.plan, Logged.result_bind_eq_ok_iff]
  simp only [Logged.ofExcept, Logged.result_bind_eq_ok_iff, Logged.note, Logged.pure_eq,
    Except.ok.injEq, exists_const, true_and, Prod.exists, exists_and_left]

/-- Runs a job on a file tree, with the path of the configuration as its result. -/
def generate (job : Job) (tree : FileTree) : Logged Path × FileTree :=
  match job.plan tree.readText with
  | ⟨log, .error failure⟩ => (⟨log, .error failure⟩, tree)
  | ⟨log, .ok plan⟩ =>
    let (saved, changed) := plan.save tree
    (⟨log ++ saved.log, saved.result⟩, changed)

/-- A job whose plan can be saved changes the tree by the document of the plan. -/
theorem generate_tree_of_plan {job : Job} {tree : FileTree} {plan : Plan} {location : Location}
    (hplan : (job.plan tree.readText).result = .ok plan)
    (htarget : tree.target plan.path = .ok location) :
    (job.generate tree).1.result = .ok plan.path ∧
      (job.generate tree).2 = tree.set location (.file plan.document.render.toUTF8) := by
  have hwrite : tree.writeText plan.path plan.document.render =
      .ok (tree.set location (.file plan.document.render.toUTF8)) := by
    rw [FileTree.writeText, htarget]
    rfl
  rcases hjob : job.plan tree.readText with ⟨log, result⟩
  obtain rfl : result = .ok plan := by rw [← hplan, hjob]
  simp only [generate, hjob, Plan.save, hwrite]
  exact ⟨rfl, trivial⟩

/-- A job whose plan can be saved ends with the path of the plan, where the document is read. -/
theorem generate_of_plan {job : Job} {tree : FileTree} {plan : Plan} {location : Location}
    (hplan : (job.plan tree.readText).result = .ok plan)
    (htarget : tree.target plan.path = .ok location) :
    (job.generate tree).1.result = .ok plan.path ∧
      (job.generate tree).2.readText plan.path = .ok plan.document.render := by
  obtain ⟨hresult, htree⟩ := generate_tree_of_plan hplan htarget
  refine ⟨hresult, ?_⟩
  rw [htree, FileTree.readText, FileTree.readBytes_set_target htarget]
  exact decodeText_toUTF8 plan.document.render

/-- A run reports what its plan does, and then whether the document could be written. -/
theorem generate_report (job : Job) (tree : FileTree) :
    (job.generate tree).1 =
      job.plan tree.readText >>= fun plan =>
        plan.conclude ((tree.target plan.path).map fun _ => ()) := by
  unfold generate
  rcases job.plan tree.readText with ⟨log, failure | plan⟩
  · rfl
  · simp only [Plan.save, FileTree.writeText, Logged.bind_ok]
    cases tree.target plan.path with
    | error fault => rfl
    | ok location => rfl

/-- A job that succeeds has been planned, and the file that it ends with could be created. -/
theorem exists_plan_of_generate {job : Job} {tree : FileTree} {path : Path}
    (h : (job.generate tree).1.result = .ok path) :
    ∃ plan location, (job.plan tree.readText).result = .ok plan ∧
      tree.target plan.path = .ok location ∧ plan.path = path := by
  rw [generate_report, Logged.result_bind_eq_ok_iff] at h
  obtain ⟨plan, hplan, hconclude⟩ := h
  cases htarget : tree.target plan.path with
  | error fault => simp [htarget, Except.map, Plan.conclude] at hconclude
  | ok location =>
    simp only [htarget, Except.map, Plan.conclude, Except.ok.injEq] at hconclude
    exact ⟨plan, location, hplan, htarget, hconclude⟩

/-- A job that succeeds has written the document that is assembled for its node, and the document is
read where the job ends. -/
theorem exists_document_of_generate {job : Job} {tree : FileTree} {cluster : Cluster} {site : Site}
    {path : Path} (hresolve : job.arguments.resolve = .ok (cluster, site))
    (h : (job.generate tree).1.result = .ok path) :
    path = site.config ∧ ∃ document,
      (Document.assemble tree.readText job.layout cluster site job.options).result = .ok document ∧
      (job.generate tree).2.readText path = .ok document.render := by
  obtain ⟨plan, location, hplan, htarget, rfl⟩ := exists_plan_of_generate h
  obtain ⟨-, hread⟩ := generate_of_plan hplan htarget
  obtain ⟨cluster', site', document, hresolve', hassemble, rfl⟩ := plan_eq_ok_iff.mp hplan
  obtain ⟨rfl, rfl⟩ := Prod.mk.inj (Except.ok.inj (hresolve'.symm.trans hresolve))
  exact ⟨rfl, document, hassemble, hread⟩

/-- A job that fails leaves the file tree as it was. -/
theorem generate_tree_of_error {job : Job} {tree : FileTree} {failure : Failure}
    (h : (job.generate tree).1.result = .error failure) : (job.generate tree).2 = tree := by
  unfold generate at h ⊢
  split
  · rfl
  · next log plan hplan =>
    rw [hplan] at h
    unfold Plan.save at h ⊢
    cases hwrite : tree.writeText plan.path plan.document.render with
    | error fault => rfl
    | ok changed => simp [hwrite, Plan.conclude] at h

end Job

end ClusterConfig
