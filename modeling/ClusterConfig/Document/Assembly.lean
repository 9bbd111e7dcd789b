/-
# Assembling a document

The document of a node is put together from its cluster, its place, the files of keys found
there and a few options. The address of the node itself is checked before those of its peers.
-/
import ClusterConfig.Document.Basic
import ClusterConfig.Keys.Material

namespace ClusterConfig

open Text

/-- What can be chosen about a document. -/
structure Options where
  /-- The length of an epoch, in blocks. -/
  epochLength : Nat := 10
  /-- The time at which the chain starts. -/
  startTime : Nat := 1
  /-- The size of the network buffer, which is not written when it is not chosen. -/
  bufferSize : Option Nat := none
  deriving DecidableEq, Repr

/-- The file with the time servers of the cluster, which may be absent. -/
def Site.timeServers (site : Site) : Path := site.clusterFile "ntp_servers"

/-- An index that no node has, as it is reported: the low 64 bits, read as a signed number. -/
def signedIndex (index : Nat) : Int := Int.bmod index UInt64.size

namespace Document

/-- The settings of a node, in the order in which they are written. -/
def settingsOf (layout : KeyLayout) (cluster : Cluster) (index : Nat) (port : UInt16)
    (options : Options) (keys : KeyMaterial) (timeServers : Option String) : List Field :=
  [⟨"id_card", .number index⟩, ⟨"port", .number port.toNat⟩,
    ⟨"max_peer", .number cluster.maxPeer⟩,
    ⟨layout.timingNames.1, .number cluster.timing.1⟩,
    ⟨layout.timingNames.2, .number cluster.timing.2⟩,
    ⟨"epoch_len", .number options.epochLength⟩, ⟨"start_time", .number options.startTime⟩] ++
  keys.secrets ++
  (options.bufferSize.map fun size => ⟨"buffer_size", .number size⟩).toList ++
  (timeServers.map fun content =>
    ⟨"ntp_servers", .literal (String.ofList (trim content.toList))⟩).toList

/-- Assembles the document of a node of a cluster. -/
def assemble (files : FileReader) (layout : KeyLayout) (cluster : Cluster) (site : Site)
    (options : Options) : Logged Document :=
  match cluster.addresses[site.index]? with
  | none => Logged.ofExcept (.error (.indexOutOfRange (signedIndex site.index) cluster.size))
  | some own => do
    let keys ← KeyMaterial.load files layout site
    let timeServers ← readOptionalFile files site.timeServers
    let address ← Logged.ofExcept (Address.ofNode site.index own)
    let peers ← Logged.ofExcept (cluster.peers site.index)
    let keygroups := keys.keygroups
    Logged.note (.assembled peers.length keygroups.length)
    return {
      settings := settingsOf layout cluster site.index address.port options keys timeServers
      peers
      keygroups }

/-- A document is assembled when the keys of the node, its address and its peers are found, and the
time servers are found or absent. -/
theorem assemble_eq_ok_iff {files : FileReader} {layout : KeyLayout} {cluster : Cluster}
    {site : Site} {options : Options} {document : Document} :
    (assemble files layout cluster site options).result = .ok document ↔
      ∃ own keys timeServers address peers,
        cluster.addresses[site.index]? = some own ∧
        (KeyMaterial.load files layout site).result = .ok keys ∧
        (readOptionalFile files site.timeServers).result = .ok timeServers ∧
        Address.ofNode site.index own = .ok address ∧
        cluster.peers site.index = .ok peers ∧
        ⟨settingsOf layout cluster site.index address.port options keys timeServers, peers,
          keys.keygroups⟩ = document := by
  unfold assemble
  split
  case h_1 hown => simp [hown, Logged.ofExcept]
  case h_2 own hown =>
    simp only [Logged.result_bind_eq_ok_iff, Logged.ofExcept, Logged.note, Logged.pure_eq,
      Except.ok.injEq, hown, Option.some.injEq, exists_and_left, exists_eq_left', exists_const,
      true_and]

/-- A node whose address and peers are found is without a document because of its keys or of the
time servers. -/
theorem failure_of_assemble {files : FileReader} {layout : KeyLayout} {cluster : Cluster}
    {site : Site} {options : Options} {own : String} {address : Address} {peers : List Peer}
    {failure : Failure} (hown : cluster.addresses[site.index]? = some own)
    (haddress : Address.ofNode site.index own = .ok address)
    (hpeers : cluster.peers site.index = .ok peers)
    (h : (assemble files layout cluster site options).result = .error failure) :
    (KeyMaterial.load files layout site).result = .error failure ∨
      ∃ fault, failure = .unreadable site.timeServers fault := by
  simp only [assemble, hown, haddress, hpeers, Logged.result_bind_eq_error_iff] at h
  rcases h with h | ⟨keys, -, h | ⟨timeServers, -, h | ⟨_, -, h | ⟨_, -, h | ⟨_, -, h⟩⟩⟩⟩⟩
  · exact Or.inl h
  · exact Or.inr (exists_unreadable_of_readOptionalFile h)
  all_goals contradiction

/-- A document depends on nothing but the files of its layout and the time servers. -/
theorem assemble_congr {first second : FileReader} {layout : KeyLayout} {cluster : Cluster}
    {site : Site} {options : Options}
    (h : ∀ path ∈ layout.files.map (·.path site) ++ [site.timeServers], first path = second path) :
    assemble first layout cluster site options = assemble second layout cluster site options := by
  have hload : KeyMaterial.load first layout site = KeyMaterial.load second layout site :=
    KeyMaterial.load_congr fun path hmem => h path (List.mem_append_left _ hmem)
  have htime :
      readOptionalFile first site.timeServers = readOptionalFile second site.timeServers := by
    rw [readOptionalFile, readOptionalFile, h site.timeServers (by simp)]
  simp only [assemble, hload, htime]

end Document

end ClusterConfig
