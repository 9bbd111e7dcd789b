/-
# Clusters and the places of their files

A cluster is its size, the addresses of its nodes and two timing parameters. The files of a cluster
stand in a base directory, those of the node with index `i` in the directory `node<i>` below it.
-/
import ClusterConfig.Text.Numeral
import ClusterConfig.FileTree.Path

namespace ClusterConfig

/-! ## Clusters -/

/-- What is given about a cluster as a whole. -/
structure Cluster where
  /-- The number of nodes. -/
  size : Nat
  /-- The addresses of the nodes in the order of their indices, as they were given. -/
  addresses : List String
  /-- The two timing parameters, whose names depend on the key layout. -/
  timing : Nat × Nat
  deriving DecidableEq, Repr

/-- The greatest number of peers a node can have. -/
def Cluster.maxPeer (cluster : Cluster) : Nat := cluster.size - 1

/-! ## Places -/

/-- The place of one node: the directory of the cluster and the directory of the node. -/
structure Site where
  index : Nat
  base : Path
  directory : Path
  deriving DecidableEq, Repr

namespace Site

/-- The name of the directory of a node. -/
def directoryName (index : Nat) : String := "node" ++ Text.showNat index

/-- The directory of a node has a plain name. -/
theorem isPlainName_directoryName (index : Nat) : Path.IsPlainName (directoryName index) := by
  have hchars : (directoryName index).toList = ['n', 'o', 'd', 'e'] ++ Text.decimal index := by
    simp [directoryName, Text.showNat]
  refine ⟨?_, ?_⟩
  · intro hmem
    have hlists : (directoryName index).toList ∈ ["", ".", ".."].map String.toList :=
      List.mem_map_of_mem hmem
    rw [hchars] at hlists
    simp at hlists
  · rw [hchars]
    intro hslash
    rcases List.mem_append.mp hslash with hslash | hslash
    · exact absurd hslash (by decide)
    · exact absurd (Text.isDigit_of_mem_decimal hslash) (by decide)

/-- Different nodes have different directories. -/
theorem directoryName_injective {first second : Nat}
    (h : directoryName first = directoryName second) : first = second := by
  have hchars := congrArg String.toList h
  simp only [directoryName, Text.showNat, String.toList_append, String.toList_ofList] at hchars
  exact Text.decimal_injective (List.append_cancel_left hchars)

/-- The place of a node below the base directory of its cluster. -/
def ofIndex (base : Path) (index : Nat) : Site where
  index := index
  base := base
  directory := base.join (directoryName index)

/-- A file of the cluster. -/
def clusterFile (site : Site) (name : String) : Path := site.base.join name

/-- A file of the node. -/
def nodeFile (site : Site) (name : String) : Path := site.directory.join name

/-- The file that the configuration of the node is written to. -/
def config (site : Site) : Path := site.nodeFile "config"

/-- A file of a node is two names below the base. -/
theorem nodeFile_ofIndex (base : Path) (index : Nat) (name : String) :
    (ofIndex base index).nodeFile name = (base.join (directoryName index)).join name := rfl

/-- The configuration of a node is two names below the base. -/
theorem config_ofIndex (base : Path) (index : Nat) :
    (ofIndex base index).config = (base.join (directoryName index)).join "config" := rfl

end Site

end ClusterConfig
