/-
# Ends of lines do not matter

The files of keys can be kept with line feeds or with carriage returns and line feeds, with or
without an end of the last line. Main statement: a job reports the same and writes the same on trees
that differ in nothing else (`Job.endsAlike_of_otherEnds`).

Signer keys, miner keys and the secrets in files of their own lose the ends of their lines when they
are read. The literals of the keypairs keep them in the document, and lose them when it is written.
So the documents of two runs need not be equal, but they are written alike
(`Document.WrittenAlike`), since every key is read from what is left of its line without the
terminator.
-/
import ClusterConfig.Proofs.Agreement
import ClusterConfig.Proofs.Document.Lines
import ClusterConfig.Proofs.TwoRuns

namespace ClusterConfig

open Text

/-! ## Files -/

namespace KeyFile

/-- Two texts of a file of keys that differ in the ends of their lines: two ways to hold one secret,
or two styles of one list of lines. -/
def OtherEnds : KeyFile → String → String → Prop
  | minerSecret, s, t | signerSecret, s, t =>
    ∃ secret, HoldsSecret secret s.toList ∧ HoldsSecret secret t.toList
  | signers, s, t | miners, s, t | keypairs, s, t => Restyled s.toList t.toList

/-- Two texts of a file of keys that hold the same keys. -/
def SameKeys : KeyFile → String → String → Prop
  | minerSecret, s, t | signerSecret, s, t => secretIn s = secretIn t
  | signers, s, t | miners, s, t | keypairs, s, t => keyTexts s.toList = keyTexts t.toList

/-- A text holds its own keys. -/
theorem SameKeys.refl (file : KeyFile) (s : String) : file.SameKeys s s := by
  cases file <;> rfl

/-- Texts that differ in the ends of their lines hold the same keys. -/
theorem OtherEnds.sameKeys {file : KeyFile} {s t : String} (h : file.OtherEnds s t) :
    file.SameKeys s t := by
  have hsecret : (∃ secret, HoldsSecret secret s.toList ∧ HoldsSecret secret t.toList) →
      secretIn s = secretIn t := by
    rintro ⟨secret, hs, ht⟩
    rw [secretIn, secretIn, dropLineEnd_of_holdsSecret hs, dropLineEnd_of_holdsSecret ht]
  cases file with
  | minerSecret => exact hsecret h
  | signerSecret => exact hsecret h
  | signers => exact keyTexts_eq_of_restyled h
  | miners => exact keyTexts_eq_of_restyled h
  | keypairs => exact keyTexts_eq_of_restyled h

end KeyFile

/-! ## Keys -/

/-- The lines of the fields of a keygroup. -/
def Keygroup.fieldLines (keygroup : Keygroup) : List (List Char) := keygroup.fields.map Field.chars

/-- The records of lines that are read are the records with their lines read. -/
def ProofRecord.map (reading : List Char → List Char) (record : ProofRecord) : ProofRecord :=
  ⟨reading record.secret, reading record.key, reading record.generator⟩

theorem records_map (reading : List Char → List Char) (lines : List (List Char)) :
    records (lines.map reading) = (records lines).map (ProofRecord.map reading) := by
  fun_induction records lines with
  | case1 secret key generator rest ih =>
    rw [List.map_cons, List.map_cons, List.map_cons, records, ih]
    rfl
  | case2 lines hshort =>
    rcases lines with _ | ⟨a, _ | ⟨b, _ | ⟨c, rest⟩⟩⟩
    iterate 3 rfl
    exact absurd rfl (hshort a b c rest)

namespace KeyMaterial

variable {index : Nat} {keys other : KeyMaterial} {s t : List Char}

/-- Texts with the same keys hold the same signer keys. -/
theorem map_signerKey_eq (h : keyTexts s = keyTexts t) :
    (keyLines s).map signerKey = (keyLines t).map signerKey := by
  apply map_keyLines_eq_of_keyTexts_eq (g := signerKey) _ h
  intro _ line _
  have hblank : trimEnd (dropTerminator line) = trimEnd line :=
    rdropWhile_rdropWhile (fun _ => isBlank_of_isTerminator) line
  rw [signerKey, signerKey, hblank]

/-- Texts with the same keys hold the same miner keys. -/
theorem map_minerKey_eq (h : keyTexts s = keyTexts t) :
    (keyLines s).map minerKey = (keyLines t).map minerKey :=
  map_keyLines_eq_of_keyTexts_eq (g := String.ofList) (fun _ _ _ => rfl) h

/-- The literals of texts with the same keys are written in the same way. -/
theorem map_literalChars_eq (h : keyTexts s = keyTexts t) :
    (keyLines s).map Value.literalChars = (keyLines t).map Value.literalChars :=
  map_keyLines_eq_of_keyTexts_eq (g := id) (fun _ _ hline =>
    literalChars_eq_dropTerminator (not_mem_dropLast_of_mem_lines hline)) h

/-- A keygroup with a proof key is written from the signer key and the literals. -/
theorem fieldLines_proofGroup_congr {signer signer' : List Char} {record record' : ProofRecord}
    (hsigner : signerKey signer = signerKey signer')
    (hrecord : record.map Value.literalChars = record'.map Value.literalChars) :
    (proofGroup signer record).fieldLines = (proofGroup signer' record').fieldLines := by
  have hkey : Value.literalChars record.key = Value.literalChars record'.key :=
    congrArg ProofRecord.key hrecord
  have hgenerator : Value.literalChars record.generator = Value.literalChars record'.generator :=
    congrArg ProofRecord.generator hrecord
  simp [Keygroup.fieldLines, proofGroup, Keygroup.fields, Field.chars, Value.chars, hsigner, hkey,
    hgenerator]

/-- **Keygroups of the same keys are written alike.** -/
theorem map_fieldLines_keygroups_eq (h : Related KeyFile.SameKeys index keys other) :
    keys.keygroups.map Keygroup.fieldLines = other.keygroups.map Keygroup.fieldLines := by
  cases h with
  | authority hminer hsigner hsigners hminers =>
    -- These keys have lost the ends of their lines already.
    refine congrArg _
      (zipWith_eq_of_map_eq ?_ (map_signerKey_eq hsigners) (map_minerKey_eq hminers))
    intro signer signer' miner miner' hsigner hminer
    rw [authorityGroup, authorityGroup, hsigner, hminer]
  | @keypair keypairs keypairs' _ _ _ _ _ _ hkeypairs hsigner hsigners hown hown' =>
    rw [keygroups, keygroups, List.map_zipWith, List.map_zipWith]
    have hrecords : (records (keyLines keypairs.toList)).map (ProofRecord.map Value.literalChars) =
        (records (keyLines keypairs'.toList)).map (ProofRecord.map Value.literalChars) := by
      rw [← records_map, ← records_map, map_literalChars_eq hkeypairs]
    refine zipWith_eq_of_map_eq ?_ (map_signerKey_eq hsigners) hrecords
    intro signer signer' record record' hsigner hrecord
    exact fieldLines_proofGroup_congr hsigner hrecord

/-- The same secrets are written alike. -/
theorem map_chars_secrets_eq (h : Related KeyFile.SameKeys index keys other) :
    keys.secrets.map Field.chars = other.secrets.map Field.chars := by
  cases h with
  | @authority miner miner' signer signer' _ _ _ _ hminer hsigner hsigners hminers =>
    have hminer : secretIn miner = secretIn miner' := hminer
    have hsigner : secretIn signer = secretIn signer' := hsigner
    rw [secrets, secrets, hminer, hsigner]
  | @keypair keypairs keypairs' signer signer' _ _ own own' hkeypairs hsigner hsigners hown hown' =>
    have hsigner : secretIn signer = secretIn signer' := hsigner
    have hliteral : Value.literalChars own = Value.literalChars own' := by
      have hline := congrArg (·[3 * index]?) (map_literalChars_eq hkeypairs)
      simpa [hown, hown'] using hline
    simp [secrets, Field.chars, Value.chars, hsigner, hliteral]

end KeyMaterial

/-! ## Documents -/

namespace Document

/-- Two documents that are written alike. Their literals need not end in the same way. -/
structure WrittenAlike (first second : Document) : Prop where
  settings : first.settings.map Field.chars = second.settings.map Field.chars
  peers : first.peers = second.peers
  keygroups : first.keygroups.map Keygroup.fieldLines = second.keygroups.map Keygroup.fieldLines

variable {first second : Document}

/-- A document is written from the lines of its fields. -/
theorem chars_eq_of_fieldLines (document : Document) :
    document.chars = (document.settings.map Field.chars).flatten ++
      ((document.peers.flatMap fun peer => tableChars peersName peer.fields) ++
        (document.keygroups.map Keygroup.fieldLines).flatMap fun fieldLines =>
          headerChars keygroupsName ++ fieldLines.flatten) := by
  rw [chars, tables, List.flatMap_append, List.flatMap_map, List.flatMap_map, List.flatMap_map,
    List.flatMap_def]
  rfl

/-- Documents that are written alike are the same text. -/
theorem WrittenAlike.sameText (h : WrittenAlike first second) : SameText first second := by
  refine ⟨⟨?peers, ?keygroups⟩, ?render⟩
  case peers => exact congrArg List.length h.peers
  case keygroups => simpa using congrArg List.length h.keygroups
  case render =>
    rw [render, render, chars_eq_of_fieldLines, chars_eq_of_fieldLines, h.settings, h.peers,
      h.keygroups]

end Document

/-! ## Runs -/

namespace Job

/-- **The ends of lines do not matter.** On trees that differ in nothing but the ends of lines in
files of keys, a job reports the same and writes the same. -/
theorem endsAlike_of_otherEnds (job : Job) {first second : FileTree}
    (h : first.KeysDifferBy KeyFile.OtherEnds second) : job.EndsAlike first second := by
  have hkeys : first.KeysDifferBy KeyFile.SameKeys second := h.mono fun file s t hst => hst.sameKeys
  have hlines : ∀ s t : String, KeyFile.keypairs.SameKeys s t →
      (keyLines s.toList).length = (keyLines t.toList).length := by
    intro s t hst
    simpa [keyTexts] using congrArg List.length hst
  apply endsAlike_of_assemble h.samePaths
  intro cluster site _
  have hload :=
    KeyMaterial.load_alike_of_keysDifferBy hkeys job.layout site KeyFile.SameKeys.refl hlines
  refine Document.assemble_alike hload (h.readText_timeServers site) ?_ ?_
  · intro d d' hsame
    exact hsame.toSameCounts
  · intro keys other port timeServers peers hrelated
    apply Document.WrittenAlike.sameText
    constructor
    case settings =>
      simp [Document.ofKeys, Document.settingsOf, KeyMaterial.map_chars_secrets_eq hrelated]
    case peers => rfl
    case keygroups => exact KeyMaterial.map_fieldLines_keygroups_eq hrelated

/-- The cluster of two nodes with other ends of lines. -/
def otherEndsTree : FileTree :=
  ((Document.pairTree.set ["signer_authorities", "c", "w"] (.file "S0\r\nS1\r\n".toUTF8)).set
    ["bls.keypairs", "c", "w"] (.file "1\nA\nG\n2\nB\nG\n\n".toUTF8)).set
    ["signer_privkey", "node0", "c", "w"] (.file "s0".toUTF8)

/-- The two clusters differ in nothing but the ends of lines. -/
theorem keysDifferBy_otherEndsTree :
    Document.pairTree.KeysDifferBy KeyFile.OtherEnds otherEndsTree := by
  have hfiles : Document.pairTree.get? ["signer_authorities", "c", "w"] =
        some (.file "S0\nS1\n".toUTF8) ∧
      Document.pairTree.get? ["bls.keypairs", "c", "w"] =
        some (.file "1\nA\nG\n2\nB\nG\n".toUTF8) ∧
      Document.pairTree.get? ["signer_privkey", "node0", "c", "w"] =
        some (.file "s0\r\n".toUTF8) := by
    decide +kernel
  obtain ⟨hsigners, hkeypairs, hsecret⟩ := hfiles
  have hother : KeyFile.signers.OtherEnds "S0\nS1\n" "S0\r\nS1\r\n" :=
    restyled_addReturns "S0\nS1\n".toList
  have hmore : KeyFile.keypairs.OtherEnds "1\nA\nG\n2\nB\nG\n" "1\nA\nG\n2\nB\nG\n\n" :=
    restyled_append_lineFeed "1\nA\nG\n2\nB\nG\n".toList
  have hheld : KeyFile.signerSecret.OtherEnds "s0\r\n" "s0" :=
    ⟨['s', '0'], .returnLineFeed, .unterminated (by decide)⟩
  exact (((FileTree.KeysDifferBy.refl KeyFile.OtherEnds Document.pairTree).set .signers hsigners
    hother).set .keypairs hkeypairs hmore).set .signerSecret hsecret hheld

/-- The first of two nodes is configured in the same way with other ends of lines. -/
theorem endsAlike_otherEndsTree :
    Document.pairTree.KeysDifferBy KeyFile.OtherEnds otherEndsTree ∧
    (generate ⟨Document.pairArguments, .keypair, {}⟩ Document.pairTree).1.result =
      .ok ⟨"c/node0/config"⟩ ∧
    EndsAlike ⟨Document.pairArguments, .keypair, {}⟩ Document.pairTree otherEndsTree :=
  ⟨keysDifferBy_otherEndsTree, rfl,
    endsAlike_of_otherEnds ⟨Document.pairArguments, .keypair, {}⟩ keysDifferBy_otherEndsTree⟩

end Job

end ClusterConfig
