/-
# The files of a cluster are apart

The runs for the nodes of a cluster can be made at the same time when none of them writes what
another one writes or reads. Main statement: over any base, different nodes have different
directories and configurations, and no configuration is a file that a run reads
(`paths_apart`). The paths are different as texts, and they also lead to different places, however
the base goes up, stays where it is or doubles its slashes.

A tree has no links, so where a path leads is told by its names alone (`eq_address_of_reaches`). A
plain name at its end is the last name of that place, whatever comes before it.
-/
import ClusterConfig.Job

namespace ClusterConfig

open ClusterConfig.Path (IsPlainName)

/-! ## Where a path leads -/

namespace FileTree

variable {tree : FileTree} {place location : Location} {p : Path} {name : String}

/-- The place that one name leads to, when nothing is looked up. -/
def follow (place : Location) (name : String) : Location :=
  if name = "." then place else if name = ".." then place.tail else name :: place

/-- A path names the place that its names lead to one after the other. -/
theorem address_eq (tree : FileTree) (p : Path) :
    tree.address p = p.components.foldl follow (tree.start p) := rfl

/-- A plain name leads one step down. -/
theorem follow_of_ne (hdot : name ≠ ".") (hdots : name ≠ "..") :
    follow place name = name :: place := by
  rw [follow, if_neg hdot, if_neg hdots]

/-- A path with a plain name at its end names what has this name below its base. -/
theorem address_join {base : Path} (h : IsPlainName name) :
    tree.address (base.join name) = name :: tree.address base := by
  have hstart : tree.start (base.join name) = tree.start base := by
    rw [start, start, Path.isAbsolute_join h]
  rw [address_eq, address_eq, Path.components_join h, List.foldl_append, hstart]
  exact follow_of_ne h.ne.2.1 h.ne.2.2

/-- A step that can be taken leads where the name says. -/
theorem eq_follow_of_step (h : tree.step place name = .ok location) :
    location = follow place name := by
  rw [step, bind_eq_ok_iff] at h
  obtain ⟨_, -, h⟩ := h
  unfold lookup at h
  unfold follow
  grind

/-- A way that can be gone leads where its names say. -/
theorem eq_foldl_of_walk {names : List String} (h : tree.walk place names = .ok location) :
    location = names.foldl follow place := by
  induction names generalizing place with
  | nil => exact (Except.ok.inj h).symm
  | cons name names ih =>
    rw [walk, bind_eq_ok_iff] at h
    obtain ⟨next, hstep, hwalk⟩ := h
    rw [List.foldl_cons, ← eq_follow_of_step hstep]
    exact ih hwalk

/-- A path reaches a place when it leads to what stands there, or when a file can be created there
under it. -/
def Reaches (tree : FileTree) (p : Path) (place : Location) : Prop :=
  tree.locate p = .ok place ∨ tree.target p = .ok place

/-- **A path reaches no place but the one that its names say.** -/
theorem eq_address_of_reaches (h : tree.Reaches p place) : place = tree.address p := by
  rcases h with h | h
  · rw [locate, bind_eq_ok_iff] at h
    obtain ⟨_, -, hwalk⟩ := h
    rw [eq_foldl_of_walk hwalk, List.foldl_append, address_eq]
    -- The slash at the end asks for a directory, but leads nowhere else.
    split
    · rfl
    · rfl
  · obtain ⟨above, name, parent, hcomponents, -, -, hwalk, -, hnew⟩ := target_eq_ok_iff.mp h
    obtain ⟨rfl, hdot, hdots, -⟩ := newFile_eq_ok_iff.mp hnew
    rw [address_eq, hcomponents, List.foldl_append, ← eq_foldl_of_walk hwalk]
    exact (follow_of_ne hdot hdots).symm

end FileTree

/-! ## Paths that are apart -/

/-- Two paths never stand for the same file: they are different texts, in every tree their names
say different places, and there is no place that both of them reach. -/
structure Path.Apart (p q : Path) : Prop where
  text_ne : p.text ≠ q.text
  address_ne : ∀ tree : FileTree, tree.address p ≠ tree.address q
  reaches_ne : ∀ (tree : FileTree) (place : Location), tree.Reaches p place → ¬ tree.Reaches q place

namespace Path

variable {p q : Path} {name other : String}

/-- Paths whose names say different places are apart. -/
theorem apart_of_address_ne (h : ∀ tree : FileTree, tree.address p ≠ tree.address q) :
    Apart p q where
  text_ne heq := h (.empty "") (congrArg _ (congrArg mk heq))
  address_ne := h
  reaches_ne tree place hp hq := by
    apply h tree
    rw [← FileTree.eq_address_of_reaches hp, ← FileTree.eq_address_of_reaches hq]

/-- Paths with different plain names at their ends are apart, whatever comes before. -/
theorem apart_join_of_ne (hname : IsPlainName name) (hother : IsPlainName other)
    (hne : name ≠ other) : Apart (p.join name) (q.join other) := by
  apply apart_of_address_ne
  intro tree heq
  rw [FileTree.address_join hname, FileTree.address_join hother] at heq
  exact hne (List.cons.inj heq).1

/-- Paths that are apart are so with the same plain name at their ends. -/
theorem Apart.join (h : Apart p q) (hname : IsPlainName name) :
    Apart (p.join name) (q.join name) := by
  apply apart_of_address_ne
  intro tree heq
  rw [FileTree.address_join hname, FileTree.address_join hname] at heq
  exact h.address_ne tree (List.cons.inj heq).2

end Path

/-! ## The files of a cluster -/

/-- The files that are read for a node. -/
inductive Site.Reads (site : Site) : Path → Prop
  | clusterFile {name : String}
    (h : name ∈ ["signer_authorities", "miner_authorities", "bls.keypairs", "ntp_servers"]) :
    Reads site (site.clusterFile name)
  | nodeFile {name : String} (h : name ∈ ["miner_privkey", "signer_privkey"]) :
    Reads site (site.nodeFile name)

namespace Site

/-- What is read has a name of its own, which is not that of a configuration. -/
theorem exists_eq_join_of_reads {site : Site} {path : Path} (h : site.Reads path) :
    ∃ base name, path = Path.join base name ∧ IsPlainName name ∧ "config" ≠ name := by
  have hcluster : ∀ name ∈ ["signer_authorities", "miner_authorities", "bls.keypairs",
      "ntp_servers"], IsPlainName name ∧ "config" ≠ name := by decide
  have hnode : ∀ name ∈ ["miner_privkey", "signer_privkey"],
      IsPlainName name ∧ "config" ≠ name := by decide
  cases h with
  | clusterFile h => exact ⟨_, _, rfl, hcluster _ h⟩
  | nodeFile h => exact ⟨_, _, rfl, hnode _ h⟩

/-- The directories of different nodes are apart. -/
theorem apart_directory {index other : Nat} (base : Path) (h : index ≠ other) :
    Path.Apart (ofIndex base index).directory (ofIndex base other).directory := by
  apply Path.apart_join_of_ne (isPlainName_directoryName index) (isPlainName_directoryName other)
  exact fun heq => h (directoryName_injective heq)

/-- All that a job may read is read for its node. -/
theorem reads_of_mem_sources {job : Job} {cluster : Cluster} {site : Site} {path : Path}
    (hresolve : job.arguments.resolve = .ok (cluster, site)) (h : path ∈ job.sources) :
    site.Reads path := by
  simp only [Job.sources, hresolve] at h
  rcases List.mem_append.mp h with h | h
  · obtain ⟨file, -, rfl⟩ := List.mem_map.mp h
    cases file with
    | minerSecret | signerSecret => exact .nodeFile (by decide)
    | signers | miners | keypairs => exact .clusterFile (by decide)
  · obtain rfl := List.mem_singleton.mp h
    exact .clusterFile (by decide)

/-- **The files of a cluster are apart.** Over any base, two different nodes have their directories
and their configurations apart, and the configuration of a node is apart from all that is read for
any node, itself or another one. The places are those that arguments are resolved to, and the files
are those that a job reads. -/
theorem paths_apart (base : Path) (index other : Nat) :
    (index ≠ other →
      Path.Apart (ofIndex base index).config (ofIndex base other).config ∧
      Path.Apart (ofIndex base index).directory (ofIndex base other).directory) ∧
    (∀ path, (ofIndex base other).Reads path → Path.Apart (ofIndex base index).config path) ∧
    ∀ (job : Job) (cluster : Cluster) (site : Site),
      job.arguments.resolve = .ok (cluster, site) →
      site = ofIndex job.arguments.basePath site.index ∧ ∀ path ∈ job.sources, site.Reads path := by
  have hconfig : IsPlainName "config" := by decide
  refine ⟨?_, ?_, ?_⟩
  · intro hne
    have hdirectory := apart_directory base hne
    exact ⟨hdirectory.join hconfig, hdirectory⟩
  · intro path hpath
    obtain ⟨above, name, rfl, hname, hne⟩ := exists_eq_join_of_reads hpath
    exact Path.apart_join_of_ne hconfig hname hne
  · intro job cluster site hresolve
    refine ⟨?_, fun path => reads_of_mem_sources hresolve⟩
    obtain ⟨_, -, -, -, -, -, -, -, rfl⟩ := Arguments.resolve_eq_ok_iff.mp hresolve
    rfl

/-- A job over a base that goes up and ends in the directory of a node. -/
def windingJob : Job :=
  ⟨⟨⟨"c//x/../node1/."⟩, "10", "11", "a:1,,,,,,,,,,b:2", "6", "10"⟩, .keypair, {}⟩

/-- The configuration of the node whose directory the base ends in is apart from that of another
node, and from what is read for that node. -/
theorem apart_windingJob :
    1 ≠ 10 ∧
    Path.Apart ⟨"c//x/../node1/./node1/config"⟩ ⟨"c//x/../node1/./node10/config"⟩ ∧
    ⟨"c//x/../node1/./bls.keypairs"⟩ ∈ windingJob.sources ∧
    (ofIndex ⟨"c//x/../node1/."⟩ 10).Reads ⟨"c//x/../node1/./bls.keypairs"⟩ ∧
    Path.Apart ⟨"c//x/../node1/./node1/config"⟩ ⟨"c//x/../node1/./bls.keypairs"⟩ := by
  have hmem : ⟨"c//x/../node1/./bls.keypairs"⟩ ∈ windingJob.sources := by decide +kernel
  obtain ⟨hnodes, hread, hjobs⟩ := paths_apart ⟨"c//x/../node1/."⟩ 1 10
  have hreads := (hjobs windingJob _ _ rfl).2 _ hmem
  exact ⟨by decide, (hnodes (by decide)).1, hmem, hreads, hread _ hreads⟩

end Site

end ClusterConfig
