/-
# Well-formed configurations

What the configuration of a node says under the authority layout, and when it says this as a
document of TOML. Numbers are taken up to 64 bits without a sign, and the time servers are taken as
they stand in their file. Main statement: when the numbers are also integers with a sign, and the
time servers make a document of their own, a run that ends well has written a well-formed document
(`isWellFormed_of_generate`).

A run does not check the time servers. With a forbidden character in them it ends well, too, but
what it has written is no document (`not_isDocument_of_generate`).
-/
import ClusterConfig.Job
import ClusterConfig.Proofs.Arguments
import ClusterConfig.Proofs.Document.Values
import ClusterConfig.Proofs.Peers
import ClusterConfig.Proofs.Toml.Characters
import ClusterConfig.Proofs.Toml.Spelling

namespace ClusterConfig

open Text
open Toml (IsDocument IsWellFormed Outline)

/-! ## What a configuration says -/

/-- The settings of a node under the authority layout, with or without those that may be left
out. -/
def authorityKeys (bufferSize timeServers : Bool) : List (List String) :=
  [["id_card"], ["port"], ["max_peer"], ["duration"], ["hz"], ["epoch_len"], ["start_time"],
    ["miner_private_key"], ["signer_private_key"]] ++
  (if bufferSize then [["buffer_size"]] else []) ++
  if timeServers then [["ntp_servers"]] else []

/-- What the configuration of a node is to say under the authority layout: its settings, then its
peers, then its keygroups. -/
def authorityOutline (bufferSize timeServers : Bool) (peers keygroups : Nat) : Outline where
  keys := authorityKeys bufferSize timeServers
  members :=
    List.replicate peers ("peers", [["id_card"], ["ip"], ["port"]]) ++
      List.replicate keygroups ("keygroups", [["miner_public_key"], ["signer_public_key"]])

/-- No setting is set twice in a configuration, and none is named like its tables. -/
theorem isConsistent_authorityOutline (bufferSize timeServers : Bool) (peers keygroups : Nat) :
    (authorityOutline bufferSize timeServers peers keygroups).IsConsistent := by
  have hmembers : ∀ member ∈ (authorityOutline bufferSize timeServers peers keygroups).members,
      member = ("peers", [["id_card"], ["ip"], ["port"]]) ∨
        member = ("keygroups", [["miner_public_key"], ["signer_public_key"]]) := by
    intro member hmember
    rcases List.mem_append.mp hmember with h | h
    · exact Or.inl (List.eq_of_mem_replicate h)
    · exact Or.inr (List.eq_of_mem_replicate h)
  have hkeys : Toml.ArePrefixFree (authorityKeys bufferSize timeServers) ∧
      ∀ key ∈ authorityKeys bufferSize timeServers,
        key.head? ≠ some "peers" ∧ key.head? ≠ some "keygroups" := by
    cases bufferSize <;> cases timeServers <;> decide
  constructor
  case keys => exact hkeys.1
  case members =>
    intro member hmember
    rcases hmembers member hmember with rfl | rfl <;> decide
  case apart =>
    intro member hmember key hkey
    rcases hmembers member hmember with rfl | rfl
    · exact (hkeys.2 key hkey).1
    · exact (hkeys.2 key hkey).2

/-- A document with the settings of a node and with keygroups without literals says what the
configuration of a node is to say. -/
theorem outline_eq_authorityOutline {document : Document} {cluster : Cluster} {index : Nat}
    {port : UInt16} {options : Options} {minerSecret signerSecret signers miners : String}
    {timeServers : Option String}
    (hsettings : document.settings = Document.settingsOf .authority cluster index port options
      (.authority minerSecret signerSecret signers miners) timeServers)
    (hkeygroups : ∀ keygroup ∈ document.keygroups, keygroup.IsPlain) :
    document.outline = authorityOutline options.bufferSize.isSome timeServers.isSome
      document.peers.length document.keygroups.length := by
  have hkeys : document.settings.map (fun field => [field.name]) =
      authorityKeys options.bufferSize.isSome timeServers.isSome := by
    rw [hsettings, Document.settingsOf]
    cases options.bufferSize <;> cases timeServers <;> rfl
  have hgroup : ∀ keygroup ∈ document.keygroups,
      ("keygroups", keygroup.fields.map fun field => [field.name]) =
        ("keygroups", [["miner_public_key"], ["signer_public_key"]]) := by
    intro keygroup hmem
    have hplain := hkeygroups keygroup hmem
    cases keygroup with
    | authority minerKey signerKey => rfl
    | proof proofKey generator signerKey => exact hplain.elim
  rw [Document.outline, hkeys, Document.tables, List.map_append, List.map_map, List.map_map,
    authorityOutline, ← List.map_eq_replicate_iff.mpr hgroup,
    ← List.map_eq_replicate_iff.mpr fun peer _ => rfl]
  rfl

/-! ## What is taken as it is given -/

/-- The numbers of a configuration are integers of 64 bits, also with a sign, and the content of the
file of time servers, if there is one, makes a document that sets them and nothing else. A run
checks neither. -/
structure FitsToml (files : FileReader) (cluster : Cluster) (site : Site) (options : Options) :
    Prop where
  timing : cluster.timing.1 ≤ maxInt64 ∧ cluster.timing.2 ≤ maxInt64
  epochLength : options.epochLength ≤ maxInt64
  startTime : options.startTime ≤ maxInt64
  bufferSize : ∀ size ∈ options.bufferSize, size ≤ maxInt64
  timeServers : ∀ content, files site.timeServers = .ok content →
    IsDocument [.setting ["ntp_servers"]] ("ntp_servers = ".toList ++ trim content.toList)

/-- A literal without blanks around it is written as it is. -/
theorem literalChars_trim (s : List Char) : Value.literalChars (trim s) = trim s := by
  have hend : ∀ c ∈ (trim s).getLast?, isBlank c = false :=
    (cutsOff_rdropWhile isBlank (s.dropWhile isBlank)).lastOutside
  have hfeed : dropLineFeed (trim s) = trim s := by
    rw [dropLineFeed, if_neg]
    intro hlast
    exact absurd (hend '\n' hlast) (by decide)
  rw [literalChars_eq, hfeed, rdropWhile_eq_self_iff_getLast?]
  intro c hc
  rw [decide_eq_false_iff_not]
  rintro rfl
  exact absurd (hend '\r' hc) (by decide)

section Settings

variable {files : FileReader} {cluster : Cluster} {site : Site} {options : Options}
  {timeServers : Option String}

/-- Time servers that fit set their name. -/
theorem FitsToml.setsName_timeServers (h : FitsToml files cluster site options)
    (hread : (readOptionalFile files site.timeServers).result = .ok timeServers) :
    ∀ field ∈ (timeServers.map fun content => (⟨"ntp_servers",
      .literal (String.ofList (trim content.toList))⟩ : Field)).toList, field.SetsName := by
  intro field hfield
  obtain ⟨content, hcontent, rfl⟩ := Option.map_eq_some_iff.mp (Option.mem_toList.mp hfield)
  have hfile : files site.timeServers = .ok content := by
    rcases readOptionalFile_eq_ok_iff.mp hread with ⟨text, hfile, rfl⟩ | ⟨-, rfl⟩
    · rwa [← Option.some.inj hcontent]
    · contradiction
  have hchars : (Value.literal (String.ofList (trim content.toList))).chars =
      trim content.toList := by
    rw [Value.chars, String.toList_ofList, literalChars_trim]
  have hname : "ntp_servers = ".toList = "ntp_servers".toList ++ [' ', '=', ' '] := by decide
  have hdocument := h.timeServers content hfile
  rw [hname, ← hchars] at hdocument
  exact hdocument

/-- Settings that fit set their names. -/
theorem FitsToml.setsName_settingsOf (h : FitsToml files cluster site options) {port : UInt16}
    {minerSecret signerSecret signers miners : String} (hindex : site.index ≤ maxInt64)
    (hpeers : cluster.maxPeer ≤ maxInt64)
    (hread : (readOptionalFile files site.timeServers).result = .ok timeServers) :
    ∀ field ∈ Document.settingsOf .authority cluster site.index port options
      (.authority minerSecret signerSecret signers miners) timeServers, field.SetsName := by
  have hport : port.toNat ≤ maxInt64 := Nat.le_trans (Nat.le_of_lt port.toNat_lt) (by decide)
  simp only [Document.settingsOf, KeyMaterial.secrets, KeyLayout.timingNames,
    List.forall_mem_append, List.forall_mem_cons, List.not_mem_nil, false_implies, implies_true,
    and_true]
  refine ⟨⟨⟨⟨?_, ?_, ?_, ?_, ?_, ?_, ?_⟩, ?_, ?_⟩, ?_⟩, h.setsName_timeServers hread⟩
  · exact Field.setsName_number (by decide) hindex
  · exact Field.setsName_number (by decide) hport
  · exact Field.setsName_number (by decide) hpeers
  · exact Field.setsName_number (by decide) h.timing.1
  · exact Field.setsName_number (by decide) h.timing.2
  · exact Field.setsName_number (by decide) h.epochLength
  · exact Field.setsName_number (by decide) h.startTime
  · exact Field.setsName_text (by decide) minerSecret
  · exact Field.setsName_text (by decide) signerSecret
  · intro field hfield
    obtain ⟨size, hsize, rfl⟩ := Option.map_eq_some_iff.mp (Option.mem_toList.mp hfield)
    exact Field.setsName_number (by decide) (h.bufferSize size hsize)

/-- The keygroups of the authority layout hold no literals. -/
theorem KeyMaterial.isPlain_keygroups (minerSecret signerSecret signers miners : String) :
    ∀ keygroup ∈ (authority minerSecret signerSecret signers miners).keygroups,
      keygroup.IsPlain := by
  intro keygroup hkeygroup
  obtain ⟨index, hindex, rfl⟩ := List.mem_iff_getElem.mp hkeygroup
  simp [keygroups, authorityGroup, Keygroup.IsPlain]

/-- A document that is assembled from what fits is well-formed. -/
theorem isWellFormed_of_assemble {document : Document} (h : FitsToml files cluster site options)
    (hlt : site.index < cluster.size) (hlength : cluster.addresses.length = cluster.size)
    (hsize : cluster.size ≤ maxInt64 + 1)
    (hassemble : (Document.assemble files .authority cluster site options).result = .ok document) :
    ∃ timeServers keygroups,
      (timeServers = true ↔ files site.timeServers ≠ .error .notFound) ∧
      IsWellFormed (authorityOutline options.bufferSize.isSome timeServers (cluster.size - 1)
        keygroups) document.chars := by
  obtain ⟨own, keys, timeServers, address, peers, hown, hkeys, htimeServers, haddress, hpeers,
    hdocument⟩ := Document.assemble_eq_ok_iff.mp hassemble
  obtain ⟨minerSecret, signerSecret, signers, miners, -, -, -, -, rfl⟩ :=
    KeyMaterial.load_authority_eq_ok_iff.mp hkeys
  obtain ⟨addresses, hreads⟩ := Cluster.exists_readsAs hown haddress hpeers
  have hcount : addresses.length = cluster.size := by
    simpa [hlength] using (congrArg List.length hreads).symm
  have hpeersExcept : document.peers = peersExcept site.index addresses := by
    rw [← hdocument]
    exact Except.ok.inj (hpeers.symm.trans (Cluster.peers_of_readsAs hreads site.index))
  have hsettings : document.settings = Document.settingsOf .authority cluster site.index
      address.port options (.authority minerSecret signerSecret signers miners) timeServers := by
    rw [← hdocument]
  have hplain : ∀ keygroup ∈ document.keygroups, keygroup.IsPlain := by
    rw [← hdocument]
    exact KeyMaterial.isPlain_keygroups minerSecret signerSecret signers miners
  have hchars : IsDocument document.outline.expressions document.chars := by
    apply Document.isDocument_chars
    · rw [hsettings]
      exact h.setsName_settingsOf (by omega) (by rw [Cluster.maxPeer]; omega) htimeServers
    · refine Document.forall_mem_tables (fun peer hpeer => ?_) fun keygroup hkeygroup => ?_
      · rw [hpeersExcept] at hpeer
        have := index_lt_of_mem_peersExcept hpeer
        exact Peer.setsName_fields (by omega)
      · exact Keygroup.setsName_fields (hplain keygroup hkeygroup)
  rw [outline_eq_authorityOutline hsettings hplain, hpeersExcept,
    length_peersExcept (hcount.symm ▸ hlt), hcount] at hchars
  refine ⟨timeServers.isSome, _, ?_, hchars, isConsistent_authorityOutline _ _ _ _⟩
  rcases readOptionalFile_eq_ok_iff.mp htimeServers with ⟨text, hfile, rfl⟩ | ⟨hfile, rfl⟩
  · simp [hfile]
  · simp [hfile]

end Settings

/-! ## The configuration -/

/-- **A configuration that is written is well-formed.** When the numbers are integers of 64 bits and
the time servers make a document of their own, a run of the authority layout that ends well has
written a document that says all that it is to say, each once and in order: the size of the buffer
when it is chosen, the time servers when there is a file of them, all other nodes as peers, and the
keygroups. The addresses are a text whose length is a number of 64 bits. -/
theorem isWellFormed_of_generate {job : Job} {tree : FileTree} {cluster : Cluster} {site : Site}
    {path : Path} (hlayout : job.layout = .authority)
    (hresolve : job.arguments.resolve = .ok (cluster, site))
    (hlength : job.arguments.addresses.toList.length ≤ maxInt64)
    (hfits : FitsToml tree.readText cluster site job.options)
    (h : (job.generate tree).1.result = .ok path) :
    path = site.config ∧ ∃ text timeServers keygroups,
      (job.generate tree).2.readText path = .ok text ∧
      (timeServers = true ↔ tree.readText site.timeServers ≠ .error .notFound) ∧
      IsWellFormed (authorityOutline job.options.bufferSize.isSome timeServers (cluster.size - 1)
        keygroups) text.toList := by
  obtain ⟨rfl, document, hassemble, hread⟩ := Job.exists_document_of_generate hresolve h
  obtain ⟨haddresses, hlt⟩ := Arguments.resolve_bounds hresolve
  have hsize : cluster.size ≤ maxInt64 + 1 :=
    Nat.le_trans (Arguments.size_le_of_resolve hresolve) (Nat.succ_le_succ hlength)
  rw [hlayout] at hassemble
  obtain ⟨timeServers, keygroups, hservers, hwellFormed⟩ :=
    isWellFormed_of_assemble hfits hlt haddresses hsize hassemble
  refine ⟨rfl, _, timeServers, keygroups, hread, hservers, ?_⟩
  rw [Document.render, String.toList_ofList]
  exact hwellFormed

/-- A run of the first of two nodes. -/
def firstOfTwo : Job where
  arguments :=
    { basePath := ⟨"c"⟩
      nodeIndex := "0"
      clusterSize := "2"
      addresses := "10.0.0.1:7001,node.example:65535"
      firstTiming := "6"
      secondTiming := "9223372036854775807" }
  options := { bufferSize := some 64 }

/-- The keys of the first of two nodes, beside some content of the file of time servers. -/
def filesWithServers (content : String) : FileTree :=
  [("c/node0/miner_privkey", "m\"0"), ("c/node0/signer_privkey", "s0\n"),
    ("c/signer_authorities", "S0\nS1"), ("c/miner_authorities", "M0\r\nM1\n"),
    ("c/ntp_servers", content)].foldl
    (fun tree (path, text) => tree.put ⟨path⟩ (.file text.toUTF8)) (.empty "w")

/-- A list of one time server makes a document. -/
theorem isDocument_pool :
    IsDocument [.setting ["ntp_servers"]]
      ("ntp_servers = ".toList ++ trim "[\"pool\"]\n".toList) := by
  have hname : IsBareName "ntp_servers" := by decide
  have hblank : Toml.IsBlanks [' '] := List.forall_mem_singleton.mpr (by decide)
  have hpool : Toml.IsString ['p', 'o', 'o', 'l'] ['"', 'p', 'o', 'o', 'l', '"'] :=
    Toml.isString_encode ['p', 'o', 'o', 'l']
  have hvalue : Toml.Spells .value ['[', '"', 'p', 'o', 'o', 'l', '"', ']'] :=
    .array (.lastValue .nil (.scalar (.string hpool)) .nil)
  have hline := Toml.IsLine.setting Toml.isBlanks_nil (.setting hname.isKey hblank hblank hvalue)
    (.blanks Toml.isBlanks_nil)
  exact IsDocument.line hline

/-- The cluster of the two nodes. -/
def twoNodes : Cluster where
  size := 2
  addresses := ["10.0.0.1:7001", "node.example:65535"]
  timing := (6, maxInt64)

/-- The arguments of the first of two nodes are resolved. -/
theorem resolve_firstOfTwo : firstOfTwo.arguments.resolve = .ok (twoNodes, .ofIndex ⟨"c"⟩ 0) := rfl

/-- The numbers of the first of two nodes and a list of one time server fit. -/
theorem fitsToml_firstOfTwo :
    FitsToml (filesWithServers "[\"pool\"]\n").readText twoNodes (.ofIndex ⟨"c"⟩ 0)
      firstOfTwo.options := by
  constructor
  case timing => decide
  case epochLength => decide
  case startTime => decide
  case bufferSize => decide
  case timeServers =>
    intro content hcontent
    obtain rfl : "[\"pool\"]\n" = content := Except.ok.inj hcontent
    exact isDocument_pool

/-- With a list of one time server the configuration of the first of two nodes is well-formed. -/
theorem isWellFormed_firstOfTwo :
    firstOfTwo.layout = .authority ∧
    firstOfTwo.arguments.resolve = .ok (twoNodes, .ofIndex ⟨"c"⟩ 0) ∧
    firstOfTwo.arguments.addresses.toList.length ≤ maxInt64 ∧
    FitsToml (filesWithServers "[\"pool\"]\n").readText twoNodes (.ofIndex ⟨"c"⟩ 0)
      firstOfTwo.options ∧
    (firstOfTwo.generate (filesWithServers "[\"pool\"]\n")).1.result =
      .ok (Site.ofIndex ⟨"c"⟩ 0).config ∧
    ∃ text timeServers keygroups,
      (firstOfTwo.generate (filesWithServers "[\"pool\"]\n")).2.readText
        (Site.ofIndex ⟨"c"⟩ 0).config = .ok text ∧
      (timeServers = true ↔ (filesWithServers "[\"pool\"]\n").readText
        (Site.ofIndex ⟨"c"⟩ 0).timeServers ≠ .error .notFound) ∧
      IsWellFormed (authorityOutline true timeServers 1 keygroups) text.toList := by
  have hresult : (firstOfTwo.generate (filesWithServers "[\"pool\"]\n")).1.result =
      .ok (Site.ofIndex ⟨"c"⟩ 0).config := rfl
  have hlength : firstOfTwo.arguments.addresses.toList.length ≤ maxInt64 := by decide
  refine ⟨rfl, resolve_firstOfTwo, hlength, fitsToml_firstOfTwo, hresult, ?_⟩
  exact (isWellFormed_of_generate rfl resolve_firstOfTwo hlength fitsToml_firstOfTwo hresult).2

/-! ## Time servers that are not checked -/

/-- The characters of a literal are those of its document. -/
theorem mem_chars_of_mem_settings {document : Document} {field : Field}
    (hfield : field ∈ document.settings) {c : Char} (hc : c ∈ field.value.chars) :
    c ∈ document.chars := by
  refine List.mem_append_left _ (List.mem_flatMap.mpr ⟨field, hfield, ?_⟩)
  simp [Field.chars, hc]

/-- **Forbidden characters among the time servers get into the configuration.** A run that ends well
has then written a text that is no document. -/
theorem not_isDocument_of_generate {job : Job} {tree : FileTree} {cluster : Cluster} {site : Site}
    {path : Path} {content : String} (hresolve : job.arguments.resolve = .ok (cluster, site))
    (hcontent : tree.readText site.timeServers = .ok content)
    (hforbidden : ¬Toml.Clean (trim content.toList))
    (h : (job.generate tree).1.result = .ok path) :
    ∃ text, (job.generate tree).2.readText path = .ok text ∧
      ∀ expressions, ¬IsDocument expressions text.toList := by
  obtain ⟨rfl, document, hassemble, hread⟩ := Job.exists_document_of_generate hresolve h
  obtain ⟨own, keys, timeServers, address, peers, -, -, htimeServers, -, -, hdocument⟩ :=
    Document.assemble_eq_ok_iff.mp hassemble
  obtain rfl : timeServers = some content := by
    rcases readOptionalFile_eq_ok_iff.mp htimeServers with ⟨text, hfile, rfl⟩ | ⟨hfile, -⟩
    · rw [Except.ok.inj (hfile.symm.trans hcontent)]
    · rw [hcontent] at hfile
      contradiction
  have hfield : ⟨"ntp_servers", .literal (String.ofList (trim content.toList))⟩ ∈
      document.settings := by
    rw [← hdocument]
    exact List.mem_append_right _ (List.mem_singleton.mpr rfl)
  refine ⟨_, hread, fun expressions hdocument => hforbidden fun c hc => ?_⟩
  apply hdocument.clean
  rw [Document.render, String.toList_ofList]
  apply mem_chars_of_mem_settings hfield
  rwa [Value.chars, String.toList_ofList, literalChars_trim]

/-- With a bell in the name of a time server, the configuration of the first of two nodes is written
but is no document. -/
theorem not_isDocument_firstOfTwo :
    firstOfTwo.layout = .authority ∧
    (firstOfTwo.generate (filesWithServers "[\"pool\x07\"]\n")).1.result =
      .ok (Site.ofIndex ⟨"c"⟩ 0).config ∧
    ∃ text, (firstOfTwo.generate (filesWithServers "[\"pool\x07\"]\n")).2.readText
        (Site.ofIndex ⟨"c"⟩ 0).config = .ok text ∧
      ∀ expressions, ¬IsDocument expressions text.toList := by
  have hresult : (firstOfTwo.generate (filesWithServers "[\"pool\x07\"]\n")).1.result =
      .ok (Site.ofIndex ⟨"c"⟩ 0).config := rfl
  refine ⟨rfl, hresult, ?_⟩
  exact not_isDocument_of_generate resolve_firstOfTwo rfl (by decide) hresult

end ClusterConfig
