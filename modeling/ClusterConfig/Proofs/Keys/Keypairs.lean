/-
# Records of keypairs

In the keypair layout the proof keys of a cluster are the lines of one file, three for each node,
and the signer keys are the lines of another. A node takes its secret from the first line of its
record, which need not be complete; the keygroups are made of the complete records.

Main statement: whatever the files hold, the keys of a node are found exactly when the first two
lines of its record are there, and otherwise the first missing line is reported. The keygroups are
those of the complete records, up to the last signer, and the same for all nodes
(`load_keypair_reads_records`).
-/
import ClusterConfig.Proofs.Agreement
import ClusterConfig.Proofs.FirstFailure
import ClusterConfig.Proofs.Text.KeySources

namespace ClusterConfig

open Text

/-! ## Literals -/

/-- What is written for the line of a literal: the line without its terminator, which is a part of a
line and not empty. -/
structure IsLiteralOf (line shown : List Char) : Prop where
  cut : CutsOff isTerminator line shown
  ne_nil : shown ≠ []
  noLineFeed : '\n' ∉ shown
  noReturnAtEnd : shown.getLast? ≠ some '\r'

/-- A key line is written without its terminator. -/
theorem isLiteralOf_of_mem_keyLines {s line : List Char} (h : line ∈ keyLines s) :
    IsLiteralOf line (Value.literal (String.ofList line)).chars := by
  have hline := not_mem_dropLast_of_mem_lines (List.takeWhile_subset _ h)
  have hshown : (Value.literal (String.ofList line)).chars = dropTerminator line := by
    rw [Value.chars, String.toList_ofList]
    exact dropReturns_dropLineFeed hline
  have hcut : CutsOff isTerminator line (dropTerminator line) :=
    cutsOff_rdropWhile isTerminator line
  rw [hshown]
  refine ⟨hcut, ?_, ?_, ?_⟩
  · have hfull := isBlankLine_of_mem_keyLines h
    rwa [isBlankLine_eq_false_iff] at hfull
  · rw [← dropReturns_dropLineFeed hline]
    exact fun hmem => (dropLineFeed_cases hline).1 ((cutsOff_rdropWhile _ _).mem hmem)
  · intro hlast
    exact absurd (hcut.lastOutside _ hlast) (by decide)

namespace KeyMaterial

/-! ## Records -/

/-- The keys of the node with an index, as they are read from the lines of the keypairs and of the
signers. -/
structure ReadsRecords (index : Nat) (lines signers : List (List Char)) (signerSecret : String)
    (keys : KeyMaterial) : Prop where
  secrets : ∃ own, lines[3 * index]? = some own ∧ keys.secrets =
    [⟨"proof_private_key", .literal (String.ofList own)⟩,
      ⟨"signer_private_key", .text signerSecret⟩]
  length_keygroups : keys.keygroups.length = min signers.length (lines.length / 3)
  keygroup : ∀ (k : Nat) (signer key generator : List Char), signers[k]? = some signer →
    lines[3 * k + 1]? = some key → lines[3 * k + 2]? = some generator →
    ∃ signerKey, CutsOff isBlank signer signerKey ∧
      keys.keygroups[k]? = some (.proof (String.ofList key) (String.ofList generator)
        (String.ofList signerKey))
  own : (∃ keygroup, keys.keygroups[index]? = some keygroup) ↔
    3 * index + 3 ≤ lines.length ∧ index < signers.length

/-- The record of a node is there when its lines are. -/
theorem getElem?_keygroups_keypair {proofSecret signerSecret signers keypairs : String} {k : Nat}
    {signer key generator : List Char} (hsigner : (keyLines signers.toList)[k]? = some signer)
    (hkey : (keyLines keypairs.toList)[3 * k + 1]? = some key)
    (hgenerator : (keyLines keypairs.toList)[3 * k + 2]? = some generator) :
    (keypair proofSecret signerSecret signers keypairs).keygroups[k]? =
      some (.proof (String.ofList key) (String.ofList generator)
        (String.ofList (trimEnd signer))) := by
  -- The last line of the record is there, so the first one is, too.
  have hlength := (List.getElem?_eq_some_iff.mp hgenerator).1
  obtain ⟨secret, hsecret⟩ : ∃ secret, (keyLines keypairs.toList)[3 * k]? = some secret :=
    ⟨_, List.getElem?_eq_getElem (by omega)⟩
  have hrecord : (records (keyLines keypairs.toList))[k]? = some ⟨secret, key, generator⟩ := by
    rw [records_getElem?, hsecret, hkey, hgenerator]
    rfl
  exact List.getElem?_zipWith_eq_some.mpr ⟨_, _, hsigner, hrecord, rfl⟩

variable {files : FileReader} {site : Site} {keypairs secret signers : String}

/-- The keys of a node are read from records. -/
theorem readsRecords_of_load {keys : KeyMaterial}
    (hkeypairs : files (site.clusterFile "bls.keypairs") = .ok keypairs)
    (hsecret : files (site.nodeFile "signer_privkey") = .ok secret)
    (hsigners : files (site.clusterFile "signer_authorities") = .ok signers)
    (h : (load files .keypair site).result = .ok keys) :
    ReadsRecords site.index (keyLines keypairs.toList) (keyLines signers.toList)
      (String.ofList (dropLineEnd secret.toList)) keys := by
  obtain ⟨keypairs', signerSecret, signers', own, hkeypairs', hsecret', hsigners', hown, rfl⟩ :=
    load_keypair_eq_ok_iff.mp h
  obtain rfl : keypairs = keypairs' := Except.ok.inj (hkeypairs.symm.trans hkeypairs')
  obtain rfl : signers = signers' := Except.ok.inj (hsigners.symm.trans hsigners')
  obtain ⟨text, htext, rfl⟩ := readSecret_eq_ok_iff.mp hsecret'
  obtain rfl : secret = text := Except.ok.inj (hsecret.symm.trans htext)
  have hlength : (keypair (String.ofList own) (String.ofList (dropLineEnd secret.toList)) signers
      keypairs).keygroups.length =
        min (keyLines signers.toList).length ((keyLines keypairs.toList).length / 3) := by
    rw [keygroups, List.length_zipWith, length_records]
  refine ⟨⟨own, (ownSecret_eq_ok_iff.mp hown).1, rfl⟩, hlength, ?_, ?_⟩
  · intro k signer key generator hsigner hkey hgenerator
    exact ⟨trimEnd signer, cutsOff_rdropWhile isBlank signer,
      getElem?_keygroups_keypair hsigner hkey hgenerator⟩
  · rw [← Option.isSome_iff_exists, isSome_getElem?, hlength]
    omega

/-- Once the files are read, the keys fail as the check of the own keypair. -/
theorem failsAs_ownKeypair
    (hkeypairs : files (site.clusterFile "bls.keypairs") = .ok keypairs)
    (hsecret : files (site.nodeFile "signer_privkey") = .ok secret)
    (hsigners : files (site.clusterFile "signer_authorities") = .ok signers) :
    FailsAs (load files .keypair site).result (Check.ownKeypair files site) := by
  have hchecks : Check.first (Check.keys files site .keypair) = Check.ownKeypair files site := by
    simp [Check.keys, Check.keyFile, KeyFile.path, hkeypairs, hsecret, hsigners]
  rw [← hchecks]
  exact failsAs_load files .keypair site

/-- **The keypairs are read in records of three lines.** The keys of a node are found exactly when
its secret and the line after it are there, and otherwise the first missing line is reported. The
complete records are paired with the signers, which gives all nodes the same keygroups, and each
line of the keypairs is written without its terminator. -/
theorem load_keypair_reads_records (files : FileReader) (site : Site)
    {keypairs secret signers : String}
    (hkeypairs : files (site.clusterFile "bls.keypairs") = .ok keypairs)
    (hsecret : files (site.nodeFile "signer_privkey") = .ok secret)
    (hsigners : files (site.clusterFile "signer_authorities") = .ok signers) :
    ((∃ keys, (load files .keypair site).result = .ok keys) ↔
      3 * site.index + 2 ≤ (keyLines keypairs.toList).length) ∧
    ((keyLines keypairs.toList).length ≤ 3 * site.index →
      (load files .keypair site).result =
        .error (.missingLine (site.clusterFile "bls.keypairs") (3 * site.index))) ∧
    ((keyLines keypairs.toList).length = 3 * site.index + 1 →
      (load files .keypair site).result =
        .error (.missingLine (site.clusterFile "bls.keypairs") (3 * site.index + 1))) ∧
    (∀ keys, (load files .keypair site).result = .ok keys →
      ReadsRecords site.index (keyLines keypairs.toList) (keyLines signers.toList)
        (String.ofList (dropLineEnd secret.toList)) keys ∧
      ∀ other otherKeys, other.base = site.base →
        (load files .keypair other).result = .ok otherKeys →
        otherKeys.keygroups = keys.keygroups) ∧
    ∀ line ∈ keyLines keypairs.toList,
      IsLiteralOf line (Value.literal (String.ofList line)).chars := by
  have hfails := failsAs_ownKeypair hkeypairs hsecret hsigners
  have hcheck : Check.ownKeypair files site =
      if (keyLines keypairs.toList).length ≤ 3 * site.index then
        some (.missingLine (site.clusterFile "bls.keypairs") (3 * site.index))
      else if (keyLines keypairs.toList).length ≤ 3 * site.index + 1 then
        some (.missingLine (site.clusterFile "bls.keypairs") (3 * site.index + 1))
      else none := by
    simp only [Check.ownKeypair, KeyFile.path, hkeypairs]
  refine ⟨?_, ?_, ?_, ?_, fun line => isLiteralOf_of_mem_keyLines⟩
  · rw [hfails.exists_ok_iff, hcheck]
    split_ifs <;> simp <;> omega
  · intro hlength
    rw [hfails, hcheck, if_pos hlength]
  · intro hlength
    rw [hfails, hcheck, if_neg (by omega), if_pos (by omega)]
  · intro keys hkeys
    refine ⟨readsRecords_of_load hkeypairs hsecret hsigners hkeys, ?_⟩
    intro other otherKeys hbase hother
    exact (keygroups_eq_of_load hbase hkeys hother).symm

/-- The files of a cluster whose second record is cut short by a blank line, with one signer. -/
def cutKeypairs : FileTree :=
  [("c/bls.keypairs", "p0\r\nP0\r\ng0\r\np1\r\nP1\n\r\ng1\n"), ("c/signer_authorities", "S0 \n"),
    ("c/node1/signer_privkey", "s1\r\n"), ("c/node2/signer_privkey", "s2")].foldl
    (fun tree (path, text) => tree.put ⟨path⟩ (.file text.toUTF8)) (.empty "w")

/-- The second node finds its secret, but its keygroup is missing. The third one finds nothing. -/
theorem load_cutKeypairs :
    (∃ keys, (load cutKeypairs.readText .keypair (.ofIndex ⟨"c"⟩ 1)).result = .ok keys ∧
      keys.secrets =
        [⟨"proof_private_key", .literal "p1\r\n"⟩, ⟨"signer_private_key", .text "s1"⟩] ∧
      keys.keygroups.length = 1 ∧
      ¬ ∃ keygroup, keys.keygroups[1]? = some keygroup) ∧
    (load cutKeypairs.readText .keypair (.ofIndex ⟨"c"⟩ 2)).result =
      .error (.missingLine ⟨"c/bls.keypairs"⟩ 6) := by
  have hkeypairs : cutKeypairs.readText ⟨"c/bls.keypairs"⟩ =
      .ok "p0\r\nP0\r\ng0\r\np1\r\nP1\n\r\ng1\n" := by
    decide +kernel
  have hsigners : cutKeypairs.readText ⟨"c/signer_authorities"⟩ = .ok "S0 \n" := by decide +kernel
  have hlines : keyLines "p0\r\nP0\r\ng0\r\np1\r\nP1\n\r\ng1\n".toList =
      ["p0\r\n".toList, "P0\r\n".toList, "g0\r\n".toList, "p1\r\n".toList, "P1\n".toList] := by
    decide +kernel
  have hsecond : cutKeypairs.readText ⟨"c/node1/signer_privkey"⟩ = .ok "s1\r\n" := by
    decide +kernel
  have hthird : cutKeypairs.readText ⟨"c/node2/signer_privkey"⟩ = .ok "s2" := by decide +kernel
  obtain ⟨hfound, -, -, hread, -⟩ :=
    load_keypair_reads_records cutKeypairs.readText (.ofIndex ⟨"c"⟩ 1) hkeypairs hsecond hsigners
  obtain ⟨-, hmissing, -⟩ :=
    load_keypair_reads_records cutKeypairs.readText (.ofIndex ⟨"c"⟩ 2) hkeypairs hthird hsigners
  rw [hlines] at hfound hmissing
  refine ⟨?_, hmissing (by decide)⟩
  obtain ⟨keys, hkeys⟩ := hfound.mpr (by decide)
  obtain ⟨hrecords, -⟩ := hread keys hkeys
  rw [hlines] at hrecords
  obtain ⟨own, hown, hsecrets⟩ := hrecords.secrets
  obtain rfl : "p1\r\n".toList = own := Option.some.inj hown
  exact ⟨keys, hkeys, hsecrets.trans (by decide +kernel),
    hrecords.length_keygroups.trans (by decide +kernel),
    fun hkeygroup => absurd (hrecords.own.mp hkeygroup) (by decide)⟩

end KeyMaterial

end ClusterConfig
