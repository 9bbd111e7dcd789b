/-
# Arguments

The six arguments of a run as they are given, all of them text, and resolving them to a cluster and
the place of one of its nodes. The arguments are checked in a fixed order and the first fault is
reported.

Main statement: resolving succeeds when the numerals are read, the index lies within the cluster
and there is one address for each node (`resolve_eq_ok_iff`).
-/
import ClusterConfig.Failure
import ClusterConfig.Cluster

namespace ClusterConfig

open Text

/-- The arguments of a run. -/
structure Arguments where
  basePath : Path
  nodeIndex : String
  clusterSize : String
  /-- The addresses of all nodes, with commas in between. -/
  addresses : String
  firstTiming : String
  secondTiming : String
  deriving DecidableEq, Repr

namespace Arguments

/-- Reads an argument as a numeral, without the blanks around it. -/
def readNumeral {α : Type} (read : List Char → Except NumeralFault α) (argument : NumeralArgument)
    (given : String) : Except Failure α :=
  (read (trim given.toList)).mapError (.malformedNumeral argument given)

/-- The texts between the commas. -/
def splitAddresses (given : String) : List String :=
  (given.toList.splitOn ',').map String.ofList

/-- The cluster and the place of the node, once the numerals are read. -/
def locate (arguments : Arguments) (index : Int) (size : Nat) (timing : Nat × Nat) :
    Except Failure (Cluster × Site) :=
  let addresses := splitAddresses arguments.addresses
  if size = 0 then .error .emptyCluster
  else if index < 0 ∨ size ≤ index then .error (.indexOutOfRange index size)
  else if addresses.length ≠ size then .error (.addressCount size addresses.length)
  else .ok (⟨size, addresses, timing⟩, .ofIndex arguments.basePath index.toNat)

/-- Resolves the arguments to a cluster and the place of the node. -/
def resolve (arguments : Arguments) : Except Failure (Cluster × Site) := do
  let index ← readNumeral readInt64 .nodeIndex arguments.nodeIndex
  let size ← readNumeral (readNat maxNat64) .clusterSize arguments.clusterSize
  let first ← readNumeral (readNat maxNat64) .firstTiming arguments.firstTiming
  let second ← readNumeral (readNat maxNat64) .secondTiming arguments.secondTiming
  arguments.locate index size (first, second)

/-- Locating succeeds for an index within a cluster that has one address for each node. -/
theorem locate_eq_ok_iff {arguments : Arguments} {index : Int} {size : Nat} {timing : Nat × Nat}
    {cluster : Cluster} {site : Site} :
    arguments.locate index size timing = .ok (cluster, site) ↔
      0 ≤ index ∧ index < size ∧ (splitAddresses arguments.addresses).length = size ∧
        cluster = ⟨size, splitAddresses arguments.addresses, timing⟩ ∧
        site = .ofIndex arguments.basePath index.toNat := by
  simp only [locate]
  constructor
  · intro h
    split at h
    · contradiction
    · split at h
      · contradiction
      · next hrange =>
        split at h
        · contradiction
        · next hlength =>
          obtain ⟨rfl, rfl⟩ := Prod.mk.inj (Except.ok.inj h)
          refine ⟨by omega, by omega, Classical.not_not.mp hlength, rfl, rfl⟩
  · rintro ⟨hnonneg, hlt, hlength, rfl, rfl⟩
    rw [if_neg (by omega), if_neg (by omega), if_neg (Classical.not_not.mpr hlength)]

/-- **What the arguments of a cluster and of one of its nodes are.** The numerals are read, there
is one address for each node, and the place of the node is the one of its index. -/
theorem resolve_eq_ok_iff {arguments : Arguments} {cluster : Cluster} {site : Site} :
    arguments.resolve = .ok (cluster, site) ↔
      ∃ index : Nat, index < cluster.size ∧
        readNumeral readInt64 .nodeIndex arguments.nodeIndex = .ok (index : Int) ∧
        readNumeral (readNat maxNat64) .clusterSize arguments.clusterSize = .ok cluster.size ∧
        readNumeral (readNat maxNat64) .firstTiming arguments.firstTiming = .ok cluster.timing.1 ∧
        readNumeral (readNat maxNat64) .secondTiming arguments.secondTiming =
          .ok cluster.timing.2 ∧
        cluster.addresses = splitAddresses arguments.addresses ∧
        cluster.addresses.length = cluster.size ∧
        site = .ofIndex arguments.basePath index := by
  simp only [resolve, bind_eq_ok_iff, locate_eq_ok_iff]
  constructor
  · rintro ⟨index, hindex, size, hsize, first, hfirst, second, hsecond, hnonneg, hlt, hlength,
      rfl, rfl⟩
    obtain ⟨n, rfl⟩ := Int.eq_ofNat_of_zero_le hnonneg
    exact ⟨n, Int.ofNat_lt.mp hlt, hindex, hsize, hfirst, hsecond, rfl, hlength, rfl⟩
  · rintro ⟨index, hlt, hindex, hsize, hfirst, hsecond, haddresses, hlength, rfl⟩
    refine ⟨index, hindex, cluster.size, hsize, cluster.timing.1, hfirst, cluster.timing.2,
      hsecond, by omega, by omega, haddresses ▸ hlength, ?_, rfl⟩
    rw [← haddresses]

/-- A resolved cluster has one address for each node, and the node is one of them. -/
theorem resolve_bounds {arguments : Arguments} {cluster : Cluster} {site : Site}
    (h : arguments.resolve = .ok (cluster, site)) :
    cluster.addresses.length = cluster.size ∧ site.index < cluster.size := by
  obtain ⟨index, hlt, -, -, -, -, -, hlength, rfl⟩ := resolve_eq_ok_iff.mp h
  exact ⟨hlength, hlt⟩

end Arguments

end ClusterConfig
