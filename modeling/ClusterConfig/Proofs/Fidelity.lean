/-
# A configuration says what its cluster is

A blueprint is a cluster as it is meant, without any text: the addresses of its nodes, its keys and
its parameters. It is given to a run as six arguments and as four files of keys, which can be laid
out in many ways. Main statement: however they are laid out, the run of a node ends well, and the
configuration it has written, read back, is the document of the blueprint (`generate_blueprint`).

The numerals, the addresses between commas, the secrets and the two kinds of key lines are read by
rules of their own. Each of them is undone by a lemma of its own, and what is left is to put these
together.
-/
import ClusterConfig.Job
import ClusterConfig.Proofs.Document.RoundTrip
import ClusterConfig.Proofs.FileTree.Below
import ClusterConfig.Proofs.Peers
import ClusterConfig.Proofs.Text.KeyLines

namespace ClusterConfig

open Text
open ClusterConfig.Path (IsPlainName)

/-! ## Blueprints -/

/-- A cluster as it is meant, seen from one of its nodes. -/
structure Blueprint where
  /-- The addresses of the nodes in the order of their indices. -/
  addresses : List Address
  /-- The node that is to be configured. -/
  index : Nat
  timing : Nat × Nat
  minerSecret : String
  signerSecret : String
  signerKeys : List String
  minerKeys : List String
  options : Options
  index_lt : index < addresses.length
  length_le : addresses.length ≤ maxInt64
  timing_le : timing.1 ≤ maxNat64 ∧ timing.2 ≤ maxNat64
  /-- Commas and colons are what addresses are told apart by. -/
  hosts : ∀ address ∈ addresses, ',' ∉ address.host.toList ∧ ':' ∉ address.host.toList
  /-- A signer key is read without the blanks after it. -/
  signers : ∀ key ∈ signerKeys, IsKey isBlank key.toList
  /-- A miner key is read without the terminators after it. -/
  miners : ∀ key ∈ minerKeys, IsKey isTerminator key.toList

namespace Blueprint

/-- The address of the node itself. -/
def own (blueprint : Blueprint) : Address :=
  blueprint.addresses.get ⟨blueprint.index, blueprint.index_lt⟩

/-- The document that the node is meant to have. -/
def document (blueprint : Blueprint) : Document where
  settings :=
    [⟨"id_card", .number blueprint.index⟩, ⟨"port", .number blueprint.own.port.toNat⟩,
      ⟨"max_peer", .number (blueprint.addresses.length - 1)⟩,
      ⟨"duration", .number blueprint.timing.1⟩, ⟨"hz", .number blueprint.timing.2⟩,
      ⟨"epoch_len", .number blueprint.options.epochLength⟩,
      ⟨"start_time", .number blueprint.options.startTime⟩,
      ⟨"miner_private_key", .text blueprint.minerSecret⟩,
      ⟨"signer_private_key", .text blueprint.signerSecret⟩] ++
    (blueprint.options.bufferSize.map fun size => ⟨"buffer_size", .number size⟩).toList
  peers := peersExcept blueprint.index blueprint.addresses
  keygroups := List.zipWith (fun signer miner => .authority miner signer) blueprint.signerKeys
    blueprint.minerKeys

/-! ## What a run is given -/

/-- The addresses of a blueprint with commas in between. -/
def addressList (blueprint : Blueprint) : String :=
  String.ofList ([','].intercalate (blueprint.addresses.map Address.chars))

/-- The arguments of the run for a blueprint over a base. -/
def arguments (blueprint : Blueprint) (base : Path) : Arguments where
  basePath := base
  nodeIndex := showNat blueprint.index
  clusterSize := showNat blueprint.addresses.length
  addresses := blueprint.addressList
  firstTiming := showNat blueprint.timing.1
  secondTiming := showNat blueprint.timing.2

/-- The run for a blueprint over a base. -/
def job (blueprint : Blueprint) (base : Path) : Job where
  arguments := blueprint.arguments base
  layout := .authority
  options := blueprint.options

/-- The files below a base hold the keys of a blueprint, and the configuration can be written. -/
structure StoredIn (blueprint : Blueprint) (tree : FileTree) (site : Site) : Prop where
  minerSecret : ∃ text, tree.readText (KeyFile.minerSecret.path site) = .ok text ∧
    HoldsSecret blueprint.minerSecret.toList text.toList
  signerSecret : ∃ text, tree.readText (KeyFile.signerSecret.path site) = .ok text ∧
    HoldsSecret blueprint.signerSecret.toList text.toList
  signers : ∃ text, tree.readText (KeyFile.signers.path site) = .ok text ∧
    LaidOut (blueprint.signerKeys.map String.toList) text.toList
  miners : ∃ text, tree.readText (KeyFile.miners.path site) = .ok text ∧
    LaidOut (blueprint.minerKeys.map String.toList) text.toList
  noTimeServers : tree.readText site.timeServers = .error .notFound
  /-- The configuration is a file or is absent. -/
  config : (∃ content, tree.readBytes site.config = .ok content) ∨
    tree.readBytes site.config = .error .notFound

/-! ## Arguments -/

/-- A number that is written as an argument is read. -/
theorem readNumeral_showNat {α : Type} {read : List Char → Except NumeralFault α} {n : Nat} {a : α}
    (argument : NumeralArgument) (h : read (decimal n) = .ok a) :
    Arguments.readNumeral read argument (showNat n) = .ok a := by
  rw [Arguments.readNumeral, showNat, String.toList_ofList, trim_decimal, h]
  rfl

/-- The addresses between the commas are those of the blueprint. -/
theorem splitAddresses_addressList (blueprint : Blueprint) :
    Arguments.splitAddresses blueprint.addressList = blueprint.addresses.map Address.text := by
  have hcomma : ∀ chars ∈ blueprint.addresses.map Address.chars, ',' ∉ chars := by
    intro chars hchars
    obtain ⟨address, haddress, rfl⟩ := List.mem_map.mp hchars
    rw [Address.chars, List.mem_append, List.mem_cons]
    rintro (hhost | hcolon | hport)
    · exact (blueprint.hosts address haddress).1 hhost
    · exact absurd hcolon (by decide)
    · exact absurd (isDigit_of_mem_decimal hport) (by decide)
  have hne : blueprint.addresses.map Address.chars ≠ [] := by
    have hpositive := blueprint.index_lt
    intro hnil
    rw [List.map_eq_nil_iff.mp hnil, List.length_nil] at hpositive
    omega
  rw [Arguments.splitAddresses, addressList, String.toList_ofList,
    List.splitOn_intercalate ',' hcomma hne, List.map_map]
  rfl

/-- The cluster of a blueprint. -/
def cluster (blueprint : Blueprint) : Cluster where
  size := blueprint.addresses.length
  addresses := blueprint.addresses.map Address.text
  timing := blueprint.timing

/-- The arguments of a blueprint are resolved to its cluster and to its node. -/
theorem resolve_arguments (blueprint : Blueprint) (base : Path) :
    (blueprint.arguments base).resolve =
      .ok (blueprint.cluster, .ofIndex base blueprint.index) := by
  have hlt := blueprint.index_lt
  have hle := blueprint.length_le
  have hindex : blueprint.index ≤ maxInt64 := by omega
  have hsize : blueprint.addresses.length ≤ maxNat64 := Nat.le_trans hle (by decide)
  refine Arguments.resolve_eq_ok_iff.mpr ⟨blueprint.index, hlt, ?_, ?_, ?_, ?_, ?_, ?_, rfl⟩
  · exact readNumeral_showNat .nodeIndex (readInt64_decimal hindex)
  · exact readNumeral_showNat .clusterSize (readNat_decimal hsize)
  · exact readNumeral_showNat .firstTiming (readNat_decimal blueprint.timing_le.1)
  · exact readNumeral_showNat .secondTiming (readNat_decimal blueprint.timing_le.2)
  · exact (splitAddresses_addressList blueprint).symm
  · exact List.length_map _

/-- The addresses of the cluster are read as those of the blueprint. -/
theorem readsAs (blueprint : Blueprint) : blueprint.cluster.ReadsAs blueprint.addresses := by
  rw [Cluster.ReadsAs, cluster, List.map_map]
  apply List.map_congr_left
  intro address haddress
  exact Address.read?_text (blueprint.hosts address haddress).2

/-! ## Keys -/

/-- A secret is read as it is meant. -/
theorem readSecret_of_holdsSecret {files : FileReader} {path : Path} {secret : String}
    (h : ∃ text, files path = .ok text ∧ HoldsSecret secret.toList text.toList) :
    (readSecret files path).result = .ok secret := by
  obtain ⟨text, hread, hholds⟩ := h
  refine readSecret_eq_ok_iff.mpr ⟨text, hread, ?_⟩
  rw [dropLineEnd_of_holdsSecret hholds, String.ofList_toList]

/-- Lines that are cut to the characters of keys are cut to the keys. -/
theorem map_ofList_eq {cut : List Char → List Char} {lines : List (List Char)} {keys : List String}
    (h : lines.map cut = keys.map String.toList) :
    (lines.map fun line => String.ofList (cut line)) = keys := by
  have hmap := congrArg (List.map String.ofList) h
  simpa [Function.comp_def] using hmap

/-- Signer keys and miner keys that are laid out on lines are paired as they are meant. -/
theorem zipWith_authorityGroup {blueprint : Blueprint} {signers miners : List Char}
    (hsigners : LaidOut (blueprint.signerKeys.map String.toList) signers)
    (hminers : LaidOut (blueprint.minerKeys.map String.toList) miners) :
    List.zipWith KeyMaterial.authorityGroup (keyLines signers) (keyLines miners) =
      blueprint.document.keygroups := by
  -- Signer keys lose all blanks at their ends, miner keys only the terminators.
  have hsignerKeys : (keyLines signers).map KeyMaterial.signerKey = blueprint.signerKeys :=
    map_ofList_eq (map_keyLines_of_laidOut (fun _ => isBlank_of_isTerminator) hsigners
      (List.forall_mem_map.mpr blueprint.signers))
  have hminerKeys : (keyLines miners).map KeyMaterial.minerKey = blueprint.minerKeys :=
    map_ofList_eq (map_keyLines_of_laidOut (fun c hc => hc) hminers
      (List.forall_mem_map.mpr blueprint.miners))
  rw [document, ← hsignerKeys, ← hminerKeys, List.zipWith_map]
  rfl

/-! ## The document -/

/-- The document that is assembled from the files of a blueprint is the document that is meant. -/
theorem assemble_of_storedIn {blueprint : Blueprint} {tree : FileTree} {base : Path}
    (h : blueprint.StoredIn tree (.ofIndex base blueprint.index)) :
    (Document.assemble tree.readText .authority blueprint.cluster (.ofIndex base blueprint.index)
      blueprint.options).result = .ok blueprint.document := by
  obtain ⟨signers, hsigners, hsignerLines⟩ := h.signers
  obtain ⟨miners, hminers, hminerLines⟩ := h.miners
  have hown : blueprint.cluster.addresses[blueprint.index]? = some blueprint.own.text := by
    rw [cluster, List.getElem?_map, List.getElem?_eq_getElem blueprint.index_lt]
    rfl
  have haddress : Address.ofNode blueprint.index blueprint.own.text = .ok blueprint.own := by
    have hmem : blueprint.own ∈ blueprint.addresses := List.get_mem _ _
    exact Address.ofNode_eq_ok_iff.mpr (Address.read?_text (blueprint.hosts _ hmem).2)
  have hkeys : (KeyMaterial.load tree.readText .authority (.ofIndex base blueprint.index)).result =
      .ok (.authority blueprint.minerSecret blueprint.signerSecret signers miners) :=
    KeyMaterial.load_authority_eq_ok_iff.mpr ⟨_, _, _, _, readSecret_of_holdsSecret h.minerSecret,
      readSecret_of_holdsSecret h.signerSecret, hsigners, hminers, rfl⟩
  have htimeServers : (readOptionalFile tree.readText
      (Site.ofIndex base blueprint.index).timeServers).result = .ok none :=
    readOptionalFile_eq_ok_iff.mpr (Or.inr ⟨h.noTimeServers, rfl⟩)
  have hpeers := Cluster.peers_of_readsAs (readsAs blueprint) blueprint.index
  refine Document.assemble_eq_ok_iff.mpr
    ⟨_, _, _, _, _, hown, hkeys, htimeServers, haddress, hpeers, ?_⟩
  rw [KeyMaterial.keygroups, zipWith_authorityGroup hsignerLines hminerLines]
  simp [document, Document.settingsOf, KeyMaterial.secrets, KeyLayout.timingNames, cluster,
    Cluster.maxPeer, Site.ofIndex]

/-- The document of a blueprint holds no literals, and its settings have distinct bare names. -/
theorem isPlain_document (blueprint : Blueprint) : blueprint.document.IsPlain := by
  have hnames : blueprint.document.settings.map Field.name =
      ["id_card", "port", "max_peer", "duration", "hz", "epoch_len", "start_time",
        "miner_private_key", "signer_private_key"] ++
      if blueprint.options.bufferSize.isSome then ["buffer_size"] else [] := by
    cases hbuffer : blueprint.options.bufferSize <;> simp [document, hbuffer]
  have hbare : ∀ name ∈ blueprint.document.settings.map Field.name,
      IsBareName name ∧ name ∉ [Document.peersName, Document.keygroupsName] := by
    rw [hnames]
    cases blueprint.options.bufferSize.isSome <;> decide
  constructor
  case plainSettings =>
    intro field hfield
    refine ⟨(hbare _ (List.mem_map_of_mem hfield)).1, ?_⟩
    rcases List.mem_append.mp hfield with hfixed | hbuffer
    · simp only [List.mem_cons, List.not_mem_nil, or_false] at hfixed
      rcases hfixed with rfl | rfl | rfl | rfl | rfl | rfl | rfl | rfl | rfl <;> exact trivial
    · obtain ⟨size, -, rfl⟩ := Option.map_eq_some_iff.mp (Option.mem_toList.mp hbuffer)
      exact trivial
  case distinctNames =>
    rw [Document.HasDistinctNames, hnames]
    cases blueprint.options.bufferSize.isSome <;> decide
  case noTableName =>
    intro field hfield
    exact (hbare _ (List.mem_map_of_mem hfield)).2
  case plainKeygroups =>
    intro keygroup hkeygroup
    obtain ⟨index, hindex, rfl⟩ := List.mem_iff_getElem.mp hkeygroup
    simp [document, Keygroup.IsPlain]

/-! ## The configuration -/

/-- The configuration can be created beside the secrets. -/
theorem exists_target_of_storedIn {blueprint : Blueprint} {tree : FileTree} {base : Path}
    (h : blueprint.StoredIn tree (.ofIndex base blueprint.index)) :
    ∃ location, tree.target (Site.ofIndex base blueprint.index).config = .ok location := by
  have hsecretName : IsPlainName "miner_privkey" := by decide
  have hconfigName : IsPlainName "config" := by decide
  -- The secret has been read in the directory of the node, and its name is the longer one.
  have hfree := h.config
  obtain ⟨text, hread, -⟩ := h.minerSecret
  have hsecret : tree.readText
      ((base.join (Site.directoryName blueprint.index)).join "miner_privkey") = .ok text := hread
  rw [Site.config_ofIndex] at hfree ⊢
  exact FileTree.exists_target_beside hconfigName hsecretName (by decide) (by decide) hsecret hfree

/-- **The configuration of a node says what its cluster is.** However the keys of a blueprint are
laid out, the run for it ends with the configuration of its node, and this file, read back, is the
document of the blueprint. -/
theorem generate_blueprint {blueprint : Blueprint} {tree : FileTree} {base : Path}
    (h : blueprint.StoredIn tree (.ofIndex base blueprint.index)) :
    ((blueprint.job base).generate tree).1.result =
      .ok (Site.ofIndex base blueprint.index).config ∧
    ∃ text, ((blueprint.job base).generate tree).2.readText
        (Site.ofIndex base blueprint.index).config = .ok text ∧
      Document.read? text = some blueprint.document := by
  obtain ⟨location, htarget⟩ := exists_target_of_storedIn h
  have hplan : ((blueprint.job base).plan tree.readText).result =
      .ok ⟨(Site.ofIndex base blueprint.index).config, blueprint.document⟩ := by
    rw [Job.plan]
    simp only [job, resolve_arguments, Logged.result_bind_eq_ok_iff]
    exact ⟨_, rfl, (), rfl, _, assemble_of_storedIn h, rfl⟩
  obtain ⟨hresult, hread⟩ := Job.generate_of_plan hplan htarget
  exact ⟨hresult, _, hread, Document.read?_render (isPlain_document blueprint)⟩

/-- The second of two nodes. -/
def pair : Blueprint where
  addresses := [⟨"10.0.0.1", 7001⟩, ⟨"node.example", 65535⟩]
  index := 1
  timing := (6, 18446744073709551615)
  minerSecret := "m\"1"
  signerSecret := "s1\r"
  signerKeys := ["S0", " S\r1"]
  minerKeys := ["M0 ", "M1", "M2"]
  options := { bufferSize := some 64 }
  index_lt := by decide
  length_le := by decide
  timing_le := by decide
  hosts := by decide
  signers := by decide
  miners := by decide

/-- The keys of the two nodes, laid out in different ways. -/
def pairFiles : FileTree :=
  [("c/node1/miner_privkey", "m\"1"), ("c/node1/signer_privkey", "s1\r\r\n"),
    ("c/signer_authorities", "S0\r\n S\r1"),
    ("c/miner_authorities", "M0 \nM1\r\nM2\n\r\nM3\n"), ("c/node1/config", "old")].foldl
    (fun tree (path, text) => tree.put ⟨path⟩ (.file text.toUTF8)) (.empty "w")

/-- The files hold the keys of the two nodes. -/
theorem storedIn_pairFiles : pair.StoredIn pairFiles (.ofIndex ⟨"c"⟩ 1) := by
  constructor
  case minerSecret => exact ⟨_, rfl, .unterminated (by decide)⟩
  case signerSecret => exact ⟨_, rfl, .returnLineFeed⟩
  case signers => exact ⟨_, rfl, .line _ .returnLineFeed (.unterminated _)⟩
  case miners =>
    exact ⟨_, rfl, .line _ .lineFeed (.line _ .returnLineFeed (.line _ .lineFeed (.atBlank 1 _)))⟩
  case noTimeServers => rfl
  case config => exact Or.inl ⟨_, rfl⟩

/-- The configuration of the second of two nodes says what the cluster is. -/
theorem generate_pair :
    pair.StoredIn pairFiles (.ofIndex ⟨"c"⟩ 1) ∧
    ((pair.job ⟨"c"⟩).generate pairFiles).1.result = .ok (Site.ofIndex ⟨"c"⟩ 1).config ∧
    ∃ text, ((pair.job ⟨"c"⟩).generate pairFiles).2.readText (Site.ofIndex ⟨"c"⟩ 1).config =
        .ok text ∧
      Document.read? text = some pair.document :=
  ⟨storedIn_pairFiles, generate_blueprint storedIn_pairFiles⟩

end Blueprint

end ClusterConfig
