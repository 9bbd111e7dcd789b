/-
# The nodes of a cluster agree

The documents of two nodes are assembled in two runs that read different files: each node has its
own secrets, and in the keypair layout its own lines of a shared file. Main statement: the documents
still agree (`nodes_agree`). Each node lists the other one, with the port that the other one gives
itself; both list the same third nodes and the same keygroups; and their settings differ in nothing
but what is a node's own. Once one node has its document, no address of the cluster is malformed,
and no node before it lacks its keypair.
-/
import ClusterConfig.Job
import ClusterConfig.Proofs.Peers

namespace ClusterConfig

open Text

/-! ## Nodes of one cluster -/

/-- The arguments for another node of the same cluster. -/
def Arguments.forNode (arguments : Arguments) (given : String) : Arguments :=
  { arguments with nodeIndex := given }

/-- The index of a node says nothing about its cluster, and its place is told by its index. -/
theorem Arguments.resolve_forNode {arguments : Arguments} {given : String}
    {cluster otherCluster : Cluster} {site otherSite : Site}
    (h : arguments.resolve = .ok (cluster, site))
    (hother : (arguments.forNode given).resolve = .ok (otherCluster, otherSite)) :
    otherCluster = cluster ∧ site = .ofIndex arguments.basePath site.index ∧
      otherSite = .ofIndex arguments.basePath otherSite.index := by
  obtain ⟨index, -, -, hsize, hfirst, hsecond, haddresses, -, hsite⟩ := resolve_eq_ok_iff.mp h
  obtain ⟨otherIndex, -, -, hsize', hfirst', hsecond', haddresses', -, hotherSite⟩ :=
    resolve_eq_ok_iff.mp hother
  refine ⟨?_, by rw [hsite]; rfl, by rw [hotherSite]; rfl⟩
  have hsizes : otherCluster.size = cluster.size := Except.ok.inj (hsize'.symm.trans hsize)
  have hfirsts : otherCluster.timing.1 = cluster.timing.1 :=
    Except.ok.inj (hfirst'.symm.trans hfirst)
  have hseconds : otherCluster.timing.2 = cluster.timing.2 :=
    Except.ok.inj (hsecond'.symm.trans hsecond)
  have htimings : otherCluster.timing = cluster.timing := Prod.ext hfirsts hseconds
  have hlists : otherCluster.addresses = cluster.addresses := haddresses'.trans haddresses.symm
  obtain ⟨_, _, _⟩ := cluster
  obtain ⟨_, _, _⟩ := otherCluster
  exact Cluster.mk.injEq .. ▸ ⟨hsizes, hlists, htimings⟩

/-! ## Keys -/

/-- The names of the secrets of a node. -/
def KeyLayout.secretNames : KeyLayout → List String
  | authority => ["miner_private_key", "signer_private_key"]
  | keypair => ["proof_private_key", "signer_private_key"]

namespace KeyMaterial

variable {files : FileReader} {layout : KeyLayout} {keys otherKeys : KeyMaterial}

/-- The secrets of a node are named by the layout. -/
theorem map_name_secrets {site : Site} (h : (load files layout site).result = .ok keys) :
    keys.secrets.map Field.name = layout.secretNames := by
  cases layout with
  | authority =>
    obtain ⟨_, _, _, _, -, -, -, -, rfl⟩ := load_authority_eq_ok_iff.mp h
    rfl
  | keypair =>
    obtain ⟨_, _, _, _, -, -, -, -, rfl⟩ := load_keypair_eq_ok_iff.mp h
    rfl

/-- The public keys of a cluster are in files that all nodes share, so the nodes have the same
keygroups. -/
theorem keygroups_eq_of_load {site otherSite : Site} (hbase : otherSite.base = site.base)
    (h : (load files layout site).result = .ok keys)
    (hother : (load files layout otherSite).result = .ok otherKeys) :
    keys.keygroups = otherKeys.keygroups := by
  have hsignersPath : KeyFile.signers.path otherSite = KeyFile.signers.path site :=
    congrArg (·.join "signer_authorities") hbase
  cases layout with
  | authority =>
    have hminersPath : KeyFile.miners.path otherSite = KeyFile.miners.path site :=
      congrArg (·.join "miner_authorities") hbase
    obtain ⟨_, _, signers, miners, -, -, hsigners, hminers, rfl⟩ := load_authority_eq_ok_iff.mp h
    obtain ⟨_, _, signers', miners', -, -, hsigners', hminers', rfl⟩ :=
      load_authority_eq_ok_iff.mp hother
    rw [hsignersPath] at hsigners'
    rw [hminersPath] at hminers'
    obtain rfl : signers = signers' := Except.ok.inj (hsigners.symm.trans hsigners')
    obtain rfl : miners = miners' := Except.ok.inj (hminers.symm.trans hminers')
    rfl
  | keypair =>
    have hkeypairsPath : KeyFile.keypairs.path otherSite = KeyFile.keypairs.path site :=
      congrArg (·.join "bls.keypairs") hbase
    obtain ⟨keypairs, _, signers, _, hkeypairs, -, hsigners, -, rfl⟩ := load_keypair_eq_ok_iff.mp h
    obtain ⟨keypairs', _, signers', _, hkeypairs', -, hsigners', -, rfl⟩ :=
      load_keypair_eq_ok_iff.mp hother
    rw [hsignersPath] at hsigners'
    rw [hkeypairsPath] at hkeypairs'
    obtain rfl : keypairs = keypairs' := Except.ok.inj (hkeypairs.symm.trans hkeypairs')
    obtain rfl : signers = signers' := Except.ok.inj (hsigners.symm.trans hsigners')
    rfl

/-- Key material is missing for a file that is not read or for a line that is missing. -/
theorem unreadable_or_missingLine_of_load {site : Site} {failure : Failure}
    (h : (load files layout site).result = .error failure) :
    (∃ path fault, failure = .unreadable path fault) ∨
      ∃ path line, failure = .missingLine path line := by
  rcases failure_of_load h with hunreadable | ⟨keypairs, -, -, hsecret⟩
  · exact Or.inl hunreadable
  · right
    unfold ownSecret at hsecret
    split at hsecret
    case h_1 => contradiction
    case h_2 => exact ⟨_, _, (Except.error.inj hsecret).symm⟩
    case h_3 => exact ⟨_, _, (Except.error.inj hsecret).symm⟩

/-- Once a node has found its keypair, no node before it fails for a line that is missing. -/
theorem unreadable_of_load_of_le {site earlier : Site} {failure : Failure}
    (hbase : earlier.base = site.base) (hle : earlier.index ≤ site.index)
    (h : (load files .keypair site).result = .ok keys)
    (hearlier : (load files .keypair earlier).result = .error failure) :
    ∃ path fault, failure = .unreadable path fault := by
  have hkeypairsPath : KeyFile.keypairs.path earlier = KeyFile.keypairs.path site :=
    congrArg (·.join "bls.keypairs") hbase
  obtain ⟨keypairs, _, _, secret, hkeypairs, -, -, hsecret, -⟩ := load_keypair_eq_ok_iff.mp h
  rcases failure_of_load hearlier with hunreadable | ⟨keypairs', -, hkeypairs', hfailure⟩
  · exact hunreadable
  · -- Both nodes read the same keypairs, and the lines of the earlier one come first.
    rw [hkeypairsPath] at hkeypairs' hfailure
    obtain rfl : keypairs = keypairs' := Except.ok.inj (hkeypairs.symm.trans hkeypairs')
    obtain ⟨found, hfound⟩ := exists_ownSecret_of_le hsecret hle
    rw [hfound] at hfailure
    contradiction

end KeyMaterial

namespace Document

/-! ## Agreeing documents -/

/-- The names of the settings that are a node's own. -/
def ownNames : List String :=
  ["id_card", "port", "miner_private_key", "proof_private_key", "signer_private_key"]

/-- A setting that is not a node's own is shared by all nodes. -/
def isShared (field : Field) : Bool := field.name ∉ ownNames

/-- The value of the setting with a name. -/
def setting? (document : Document) (name : String) : Option Value :=
  (document.settings.find? (·.name = name)).map Field.value

/-- The documents of two nodes with given indices agree. -/
structure AgreesWith (first second : Document) (self other : Nat) : Prop where
  /-- The first node lists the second one once, under its index and with its own port. -/
  listsOnce : ∃ address : Address,
    first.peers.filter (·.index = other) = [⟨other, address⟩] ∧
    second.setting? "id_card" = some (.number other) ∧
    second.setting? "port" = some (.number address.port.toNat)
  sameThirdPeers :
    first.peers.filter (·.index ≠ other) = second.peers.filter (·.index ≠ self)
  sameKeygroups : first.keygroups = second.keygroups
  sameNames : first.settings.map Field.name = second.settings.map Field.name
  sameShared : first.settings.filter isShared = second.settings.filter isShared

/-! ## Settings -/

variable {layout : KeyLayout} {cluster : Cluster} {options : Options} {keys otherKeys : KeyMaterial}
  {timeServers : Option String} {index otherIndex : Nat} {port otherPort : UInt16}

/-- The settings of two nodes have the same names. -/
theorem map_name_settingsOf (h : keys.secrets.map Field.name = otherKeys.secrets.map Field.name) :
    (settingsOf layout cluster index port options keys timeServers).map Field.name =
      (settingsOf layout cluster otherIndex otherPort options otherKeys timeServers).map
        Field.name := by
  simp only [settingsOf, List.map_append, h, List.map_cons]

/-- Secrets are a node's own. -/
theorem filter_secrets (h : keys.secrets.map Field.name = layout.secretNames) :
    keys.secrets.filter isShared = [] := by
  have hown : ∀ name ∈ layout.secretNames, name ∈ ownNames := by cases layout <;> decide
  rw [List.filter_eq_nil_iff]
  intro field hfield
  have hname : field.name ∈ ownNames := by
    apply hown
    rw [← h]
    exact List.mem_map_of_mem hfield
  simpa [isShared] using hname

/-- The settings of two nodes differ in nothing but a node's own. -/
theorem filter_settingsOf (h : keys.secrets.map Field.name = layout.secretNames)
    (hother : otherKeys.secrets.map Field.name = layout.secretNames) :
    (settingsOf layout cluster index port options keys timeServers).filter isShared =
      (settingsOf layout cluster otherIndex otherPort options otherKeys timeServers).filter
        isShared := by
  have hindex (n : Nat) : ¬ isShared ⟨"id_card", .number n⟩ = true := Bool.false_ne_true
  have hport (n : Nat) : ¬ isShared ⟨"port", .number n⟩ = true := Bool.false_ne_true
  simp only [settingsOf, List.filter_append, filter_secrets h, filter_secrets hother]
  rw [List.filter_cons_of_neg (hindex index), List.filter_cons_of_neg (hport port.toNat),
    List.filter_cons_of_neg (hindex otherIndex), List.filter_cons_of_neg (hport otherPort.toNat)]

/-! ## Agreement -/

/-- The documents of two nodes of a cluster whose addresses are read agree. -/
theorem agreesWith_of_readsAs {files : FileReader} {base : Path} {addresses : List Address}
    {first second : Document} (haddresses : cluster.ReadsAs addresses) (hne : otherIndex ≠ index)
    (hfirst : (assemble files layout cluster (.ofIndex base index) options).result = .ok first)
    (hsecond :
      (assemble files layout cluster (.ofIndex base otherIndex) options).result = .ok second) :
    first.AgreesWith second index otherIndex := by
  obtain ⟨_, keys, timeServers, _, peers, -, hkeys, htimeServers, -, hpeers, rfl⟩ :=
    assemble_eq_ok_iff.mp hfirst
  obtain ⟨own, otherKeys, timeServers', address, otherPeers, hown, hotherKeys, htimeServers',
    haddress, hotherPeers, rfl⟩ := assemble_eq_ok_iff.mp hsecond
  obtain rfl : peers = peersExcept index addresses :=
    Except.ok.inj (hpeers.symm.trans (Cluster.peers_of_readsAs haddresses index))
  obtain rfl : otherPeers = peersExcept otherIndex addresses :=
    Except.ok.inj (hotherPeers.symm.trans (Cluster.peers_of_readsAs haddresses otherIndex))
  -- The time servers are in one file, which both nodes find or miss.
  obtain rfl : timeServers = timeServers' :=
    Except.ok.inj (htimeServers.symm.trans htimeServers')
  have hnames := KeyMaterial.map_name_secrets hkeys
  have hotherNames := KeyMaterial.map_name_secrets hotherKeys
  constructor
  case listsOnce =>
    obtain ⟨found, hfound, hread⟩ := haddresses.exists_address hown
    obtain rfl : found = address := Except.ok.inj (hread.symm.trans haddress)
    exact ⟨found, filter_index_peersExcept hne hfound, rfl, rfl⟩
  case sameThirdPeers => exact filter_ne_peersExcept_comm index otherIndex addresses
  case sameKeygroups =>
    have hbase : (Site.ofIndex base otherIndex).base = (Site.ofIndex base index).base := rfl
    exact KeyMaterial.keygroups_eq_of_load hbase hkeys hotherKeys
  case sameNames => exact map_name_settingsOf (hnames.trans hotherNames.symm)
  case sameShared => exact filter_settingsOf hnames hotherNames

/-- In a cluster whose addresses are read, a node is without its document because of its keys or of
the time servers. -/
theorem failure_of_readsAs {files : FileReader} {base : Path} {addresses : List Address}
    {failure : Failure} (haddresses : cluster.ReadsAs addresses)
    (hindex : index < cluster.addresses.length)
    (h : (assemble files layout cluster (.ofIndex base index) options).result = .error failure) :
    (KeyMaterial.load files layout (.ofIndex base index)).result = .error failure ∨
      ∃ path fault, failure = .unreadable path fault := by
  have hgiven : cluster.addresses[index]? = some cluster.addresses[index] :=
    List.getElem?_eq_getElem hindex
  obtain ⟨address, -, haddress⟩ := haddresses.exists_address hgiven
  have hpeers := Cluster.peers_of_readsAs haddresses index
  rcases failure_of_assemble hgiven haddress hpeers h with hload | ⟨fault, hfault⟩
  · exact Or.inl hload
  · exact Or.inr ⟨_, fault, hfault⟩

/-- **All nodes of a cluster agree.** When one node has its document, it agrees with the document of
every other node; no node of the cluster fails for a malformed address; and in the keypair layout no
earlier node fails for a line that is missing. -/
theorem nodes_agree {tree : FileTree} {arguments : Arguments} {site : Site} {document : Document}
    (hresolve : arguments.resolve = .ok (cluster, site))
    (hdocument : (assemble tree.readText layout cluster site options).result = .ok document) :
    (∀ given otherCluster otherSite otherDocument,
      (arguments.forNode given).resolve = .ok (otherCluster, otherSite) →
      (assemble tree.readText layout otherCluster otherSite options).result = .ok otherDocument →
      otherSite.index ≠ site.index →
      document.AgreesWith otherDocument site.index otherSite.index) ∧
    ∀ index < cluster.size, ∀ failure,
      (assemble tree.readText layout cluster (.ofIndex arguments.basePath index) options).result =
        .error failure →
      (∀ node given, failure ≠ .malformedAddress node given) ∧
      (layout = .keypair → index < site.index → ∀ path line, failure ≠ .missingLine path line) := by
  obtain ⟨own, keys, timeServers, address, peers, hown, hkeys, -, haddress, hpeers, -⟩ :=
    assemble_eq_ok_iff.mp hdocument
  obtain ⟨addresses, haddresses⟩ := Cluster.exists_readsAs hown haddress hpeers
  constructor
  · intro given otherCluster otherSite otherDocument hother hotherDocument hne
    obtain ⟨rfl, hsite, hotherSite⟩ := Arguments.resolve_forNode hresolve hother
    -- Both places are told by their indices, so that the two runs differ in nothing else.
    rw [hsite] at hdocument
    rw [hotherSite] at hotherDocument
    exact agreesWith_of_readsAs haddresses hne hdocument hotherDocument
  · intro index hindex failure hfailure
    obtain ⟨hlength, -⟩ := Arguments.resolve_bounds hresolve
    obtain ⟨node, -, -, -, -, -, -, -, rfl⟩ := Arguments.resolve_eq_ok_iff.mp hresolve
    have hcause := failure_of_readsAs haddresses (hlength ▸ hindex) hfailure
    constructor
    · rintro node given rfl
      rcases hcause with hload | ⟨path, fault, hunreadable⟩
      · rcases KeyMaterial.unreadable_or_missingLine_of_load hload with
          ⟨path, fault, hunreadable⟩ | ⟨path, line, hmissing⟩
        · contradiction
        · contradiction
      · contradiction
    · rintro rfl hlt path line rfl
      rcases hcause with hload | ⟨path, fault, hunreadable⟩
      · have hbase : (Site.ofIndex arguments.basePath index).base =
            (Site.ofIndex arguments.basePath node).base := rfl
        obtain ⟨path, fault, hunreadable⟩ :=
          KeyMaterial.unreadable_of_load_of_le hbase (Nat.le_of_lt hlt) hkeys hload
        contradiction
      · contradiction

/-- The files of a cluster of two nodes in the keypair layout. -/
def pairTree : FileTree :=
  [("c/signer_authorities", "S0\nS1\n"), ("c/bls.keypairs", "1\nA\nG\n2\nB\nG\n"),
    ("c/node0/signer_privkey", "s0\r\n"), ("c/node1/signer_privkey", "s1")].foldl
    (fun tree (path, text) => tree.put ⟨path⟩ (.file text.toUTF8)) (.empty "w")

/-- The first node of the cluster of two nodes. -/
def pairArguments : Arguments := ⟨⟨"c"⟩, "0", "2", "a:1,b:2", "5", "7"⟩

/-- The cluster of two nodes. -/
def pairCluster : Cluster := ⟨2, ["a:1", "b:2"], (5, 7)⟩

/-- The two nodes of a cluster agree. -/
theorem pair_nodes_agree :
    ∃ first second,
      pairArguments.resolve = .ok (pairCluster, .ofIndex ⟨"c"⟩ 0) ∧
      (pairArguments.forNode "+1").resolve = .ok (pairCluster, .ofIndex ⟨"c"⟩ 1) ∧
      (assemble pairTree.readText .keypair pairCluster (.ofIndex ⟨"c"⟩ 0) {}).result = .ok first ∧
      (assemble pairTree.readText .keypair pairCluster (.ofIndex ⟨"c"⟩ 1) {}).result = .ok second ∧
      first.AgreesWith second 0 1 := by
  have hresolve : pairArguments.resolve = .ok (pairCluster, .ofIndex ⟨"c"⟩ 0) := rfl
  have hother : (pairArguments.forNode "+1").resolve = .ok (pairCluster, .ofIndex ⟨"c"⟩ 1) := rfl
  obtain ⟨first, hfirst⟩ : ∃ first, (assemble pairTree.readText .keypair pairCluster
    (.ofIndex ⟨"c"⟩ 0) {}).result = .ok first := ⟨_, rfl⟩
  obtain ⟨second, hsecond⟩ : ∃ second, (assemble pairTree.readText .keypair pairCluster
    (.ofIndex ⟨"c"⟩ 1) {}).result = .ok second := ⟨_, rfl⟩
  refine ⟨first, second, hresolve, hother, hfirst, hsecond, ?_⟩
  exact (nodes_agree hresolve hfirst).1 "+1" pairCluster (.ofIndex ⟨"c"⟩ 1) second hother hsecond
    (by decide)

end Document

end ClusterConfig
