/-
# Key layouts

Which files hold the keys of a cluster and of its nodes, and what the two timing parameters of the
cluster are called.
-/
import ClusterConfig.Cluster

namespace ClusterConfig

/-! ## The files of keys -/

/-- The kinds of files that hold keys. -/
inductive KeyFile where
  /-- The secret miner key of a node. -/
  | minerSecret
  /-- The secret signer key of a node. -/
  | signerSecret
  /-- The public signer keys of the cluster, one on each line. -/
  | signers
  /-- The public miner keys of the cluster, one on each line. -/
  | miners
  /-- The proof keypairs of the cluster, three lines for each node. -/
  | keypairs
  deriving DecidableEq, Repr

/-- Where a file of keys is found for a node. -/
def KeyFile.path (file : KeyFile) (site : Site) : Path :=
  match file with
  | minerSecret => site.nodeFile "miner_privkey"
  | signerSecret => site.nodeFile "signer_privkey"
  | signers => site.clusterFile "signer_authorities"
  | miners => site.clusterFile "miner_authorities"
  | keypairs => site.clusterFile "bls.keypairs"

/-! ## Layouts -/

/-- How the keys of a cluster are laid out in files: lists of signer and miner keys, or proof
keypairs beside the signer keys. -/
inductive KeyLayout where
  | authority
  | keypair
  deriving DecidableEq, Repr

namespace KeyLayout

/-- The name of a layout in the log. -/
def title : KeyLayout → String
  | authority => "Authority"
  | keypair => "Keypair"

/-- The names of the two timing parameters. -/
def timingNames : KeyLayout → String × String
  | authority => ("duration", "hz")
  | keypair => ("steps", "nps")

/-- The files of a layout in the order in which they are read. -/
def files : KeyLayout → List KeyFile
  | authority => [.minerSecret, .signerSecret, .signers, .miners]
  | keypair => [.keypairs, .signerSecret, .signers]

end KeyLayout

end ClusterConfig
