/-
# Failures

Everything that can keep a configuration from being generated, and how it is reported. A failure
names its cause; its wording is made in one place (`Failure.message`). Where a file could not be
read or created, the fault underneath is kept beside it.
-/
import ClusterConfig.Text.Numeral
import ClusterConfig.FileTree.Access

namespace ClusterConfig

open Text

/-! ## Causes -/

/-- The arguments that are numerals. -/
inductive NumeralArgument where
  | nodeIndex
  | clusterSize
  | firstTiming
  | secondTiming
  deriving DecidableEq, Repr

/-- The name under which an argument is reported. -/
def NumeralArgument.label : NumeralArgument → String
  | .nodeIndex => "nodeIndex"
  | .clusterSize => "clusterSize"
  | .firstTiming => "param1"
  | .secondTiming => "param2"

/-- What keeps a configuration from being generated. -/
inductive Failure where
  /-- An argument is no numeral of its range. -/
  | malformedNumeral (argument : NumeralArgument) (given : String) (fault : NumeralFault)
  /-- A cluster of no nodes. -/
  | emptyCluster
  /-- The list of addresses is not as long as the cluster. -/
  | addressCount (expected given : Nat)
  /-- No node of the cluster has the index. -/
  | indexOutOfRange (index : Int) (size : Nat)
  /-- A file of keys cannot be read. -/
  | unreadable (path : Path) (fault : IoFault)
  /-- A file of keys ends before the line with a key of the node. -/
  | missingLine (path : Path) (line : Nat)
  /-- The address of a node is not a host and a port. -/
  | malformedAddress (index : Nat) (given : String)
  /-- The configuration cannot be written. -/
  | unwritable (path : Path) (fault : IoFault)
  deriving DecidableEq, Repr

namespace Failure

/-! ## Wording -/

/-- The report on an argument. -/
def invalidArgument (label reason : String) : String :=
  "invalid argument `" ++ label ++ "`: " ++ reason

/-- The wording of a failure, without the fault underneath. -/
def message : Failure → String
  | malformedNumeral argument given fault =>
    invalidArgument argument.label ("`" ++ given ++ "`: " ++ fault.message)
  | emptyCluster =>
    invalidArgument NumeralArgument.clusterSize.label "cluster must have at least one node"
  | addressCount expected given =>
    invalidArgument "peerAddressesCSV"
      ("expected " ++ showNat expected ++ " addresses, got " ++ showNat given)
  | indexOutOfRange index size =>
    "node index " ++ showInt index ++ " is out of range for a cluster of " ++ showNat size ++
      " nodes"
  | unreadable path _ => "failed reading key file " ++ path.text
  | missingLine path line => path.text ++ ": expected a value at line " ++ showNat line
  | malformedAddress index given =>
    "peer address #" ++ showNat index ++ " `" ++ given ++ "` is not of the form ip:port"
  | unwritable path _ => "failed writing config to " ++ path.text

/-- The fault underneath a failure. -/
def fault? : Failure → Option IoFault
  | unreadable _ fault | unwritable _ fault => some fault
  | _ => none

/-- A failure and the fault underneath, the outermost first. -/
def causes (failure : Failure) : List String :=
  failure.message :: (failure.fault?.map IoFault.message).toList

end Failure

/-! ## Results -/

/-- A sequence of two steps succeeds when both of them do. -/
theorem bind_eq_ok_iff {ε α β : Type} {first : Except ε α} {next : α → Except ε β} {b : β} :
    first >>= next = .ok b ↔ ∃ a, first = .ok a ∧ next a = .ok b := by
  cases first <;> simp [bind, Except.bind]

/-- A sequence of two steps fails when its first step does, or its second step after the first. -/
theorem bind_eq_error_iff {ε α β : Type} {first : Except ε α} {next : α → Except ε β} {fault : ε} :
    first >>= next = .error fault ↔
      first = .error fault ∨ ∃ a, first = .ok a ∧ next a = .error fault := by
  cases first <;> simp [bind, Except.bind]

/-- A result with another wording of its faults is the same result. -/
theorem mapError_eq_ok_iff {ε δ α : Type} {wording : ε → δ} {result : Except ε α} {a : α} :
    result.mapError wording = .ok a ↔ result = .ok a := by
  cases result with
  | error fault =>
    show (Except.error (wording fault) : Except δ α) = .ok a ↔ _
    simp
  | ok b =>
    show (Except.ok b : Except δ α) = .ok a ↔ _
    simp

/-- A fault with another wording is that of a fault. -/
theorem mapError_eq_error_iff {ε δ α : Type} {wording : ε → δ} {result : Except ε α} {failure : δ} :
    result.mapError wording = .error failure ↔
      ∃ fault, result = .error fault ∧ wording fault = failure := by
  cases result with
  | error fault =>
    show (Except.error (wording fault) : Except δ α) = .error failure ↔ _
    simp
  | ok b =>
    show (Except.ok b : Except δ α) = .error failure ↔ _
    simp

end ClusterConfig
