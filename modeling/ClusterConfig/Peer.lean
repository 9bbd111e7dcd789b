/-
# Addresses and peers

The address of a node is a host and a port with a colon in between. The peers of a node are all
other nodes of its cluster.
-/
import ClusterConfig.Failure
import ClusterConfig.Cluster

namespace ClusterConfig

open Text

/-! ## Addresses -/

/-- Where a node is reached. -/
structure Address where
  host : String
  port : UInt16
  deriving DecidableEq, Repr

/-- Reads a host, which ends at the first colon, and a port. -/
def Address.read? (given : String) : Option Address :=
  let host := given.toList.takeWhile (· ≠ ':')
  match given.toList.dropWhile (· ≠ ':') with
  | [] => none
  | _ :: rest =>
    match readNat maxNat16 rest with
    | .ok port => some ⟨String.ofList host, port.toUInt16⟩
    | .error _ => none

/-! ## Peers -/

/-- A node as the other nodes see it. -/
structure Peer where
  index : Nat
  address : Address
  deriving DecidableEq, Repr

/-- Reads the address of the node with an index. -/
def Address.ofNode (index : Nat) (given : String) : Except Failure Address :=
  match Address.read? given with
  | some address => .ok address
  | none => .error (.malformedAddress index given)

/-- The nodes of a cluster other than one, in the order of their indices. -/
def Cluster.peers (cluster : Cluster) (self : Nat) : Except Failure (List Peer) :=
  (cluster.addresses.zipIdx.filter fun (_, index) => index ≠ self).mapM fun (given, index) =>
    return ⟨index, ← Address.ofNode index given⟩

end ClusterConfig
