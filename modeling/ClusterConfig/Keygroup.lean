/-
# Keygroups

The public keys that validate one participant: a signer key with a miner key, or a signer key with a
proof key and its generator. Proof keys are literals of the document and are kept as they were read.
-/
import ClusterConfig.Document.Field

namespace ClusterConfig

/-- The public keys of one participant. -/
inductive Keygroup where
  | authority (minerKey signerKey : String)
  | proof (proofKey generator signerKey : String)
  deriving DecidableEq, Repr

/-- The fields of a keygroup in the order in which they are written. -/
def Keygroup.fields : Keygroup → List Field
  | .authority minerKey signerKey =>
    [⟨"miner_public_key", .text minerKey⟩, ⟨"signer_public_key", .text signerKey⟩]
  | .proof proofKey generator signerKey =>
    [⟨"proof_public_key", .literal proofKey⟩, ⟨"proof_public_g", .literal generator⟩,
      ⟨"signer_public_key", .text signerKey⟩]

end ClusterConfig
