import ClusterConfig.Main
import ClusterConfig.FileTree.Lemmas
import ClusterConfig.Text.Quoted.RoundTrip
import ClusterConfig.Document.Reader
import ClusterConfig.Proofs.Document.RoundTrip
import ClusterConfig.Proofs.Text.KeyLines
import ClusterConfig.Proofs.Peers
import ClusterConfig.Proofs.FileTree.Below
import ClusterConfig.Proofs.Agreement
import ClusterConfig.Proofs.Order
import ClusterConfig.Proofs.Fidelity
import ClusterConfig.Proofs.Alike
import ClusterConfig.Proofs.FileTree.SamePaths
import ClusterConfig.Proofs.Text.LineChanges
import ClusterConfig.Proofs.Text.LineEndings
import ClusterConfig.Proofs.TwoRuns
import ClusterConfig.Proofs.Secrecy
import ClusterConfig.Proofs.Atomicity
import ClusterConfig.Proofs.LineEndings
import ClusterConfig.Proofs.Arguments
import ClusterConfig.Proofs.FirstFailure
import ClusterConfig.Proofs.CommandLine.Grammar
import ClusterConfig.Proofs.CommandLine.Run
import ClusterConfig.Proofs.Toml.Characters
import ClusterConfig.Proofs.Toml.Spelling
import ClusterConfig.Proofs.WellFormed
import ClusterConfig.Proofs.PeerList
import ClusterConfig.Proofs.Text.KeySources
import ClusterConfig.Proofs.Keys.Authorities
import ClusterConfig.Proofs.Keys.Keypairs
import ClusterConfig.Proofs.Text.Cutting
import ClusterConfig.Proofs.NumeralFaults
import ClusterConfig.Proofs.PathsApart
import ClusterConfig.Proofs.UncheckedSteps
