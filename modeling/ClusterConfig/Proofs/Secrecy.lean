/-
# Where secrets go

The secret keys of a cluster stand in files of their own, and in the keypair layout on every third
line of a file that all nodes share. Main statements: what a run writes for a node does not depend
on the secrets of other nodes (`Job.endsAlike_of_sameInputs`), and what a command line shows does
not depend on any secret at all (`CommandLine.run_eq_of_samePublic`).

Both are statements about two runs. The public keys that are copied into a configuration stand on
the lines between the secrets, so the keygroups are the same in both runs
(`KeyMaterial.keygroups_eq_of_related`), and the own secret of a node is on a line that belongs to
no other node.
-/
import ClusterConfig.CommandLine.Run
import ClusterConfig.Proofs.Agreement
import ClusterConfig.Proofs.Text.LineChanges
import ClusterConfig.Proofs.TwoRuns

namespace ClusterConfig

open Text

/-! ## What is public -/

/-- The public keys of the records of lines that are the same except for the secrets. -/
theorem map_public_records {first second : List (List Char)}
    (h : SameExceptOn (· % 3 = 0) first second) :
    (records first).map (fun record => (record.key, record.generator)) =
      (records second).map fun record => (record.key, record.generator) := by
  apply List.ext_getElem?
  intro index
  have hkey : first[3 * index + 1]? = second[3 * index + 1]? := h.getElem?_eq (by omega)
  have hgenerator : first[3 * index + 2]? = second[3 * index + 2]? := h.getElem?_eq (by omega)
  rw [List.getElem?_map, List.getElem?_map, records_getElem?, records_getElem?, hkey, hgenerator]
  -- A secret is there in both lists or in none.
  by_cases hsecret : 3 * index < first.length
  · have hother : 3 * index < second.length := h.length_eq ▸ hsecret
    have hfirst : first[3 * index]? = some first[3 * index] := List.getElem?_eq_getElem hsecret
    have hsecond : second[3 * index]? = some second[3 * index] := List.getElem?_eq_getElem hother
    rw [hfirst, hsecond]
    cases second[3 * index + 1]? with
    | none => rfl
    | some key =>
      cases second[3 * index + 2]? with
      | none => rfl
      | some generator => rfl
  · have hfirst : first[3 * index]? = none := List.getElem?_eq_none (Nat.le_of_not_lt hsecret)
    have hsecond : second[3 * index]? = none :=
      List.getElem?_eq_none (Nat.le_of_not_lt (h.length_eq ▸ hsecret))
    rw [hfirst, hsecond]

namespace KeyFile

/-- Two texts of a file of keys with the same public keys. Nothing is public in the file of a
secret, and in that of the keypairs everything but every third line. -/
def SamePublic : KeyFile → String → String → Prop
  | minerSecret, _, _ => True
  | signerSecret, _, _ => True
  | signers, s, t => s = t
  | miners, s, t => s = t
  | keypairs, s, t => SameExceptOn (· % 3 = 0) (lines s.toList) (lines t.toList)

/-- Two texts of a file of keys that are the same for one node: those of the keypairs can differ in
the secrets of other nodes. -/
def SameForNode (index : Nat) : KeyFile → String → String → Prop
  | keypairs, s, t =>
    SameExceptOn (fun number => number % 3 = 0 ∧ number / 3 ≠ index) (lines s.toList)
      (lines t.toList)
  | _, s, t => s = t

/-- The public keys of a text are its own. -/
theorem SamePublic.refl (file : KeyFile) (s : String) : file.SamePublic s s := by
  cases file with
  | minerSecret => trivial
  | signerSecret => trivial
  | signers => rfl
  | miners => rfl
  | keypairs => exact SameExceptOn.refl _ _

/-- What is the same for a node has the same public keys. -/
theorem SameForNode.samePublic {index : Nat} {file : KeyFile} {s t : String}
    (h : file.SameForNode index s t) : file.SamePublic s t := by
  cases file with
  | keypairs => exact SameExceptOn.mono h fun number hnumber => hnumber.1
  | minerSecret => trivial
  | signerSecret => trivial
  | signers => exact h
  | miners => exact h

/-- Keypairs with the same public keys have as many lines. -/
theorem SamePublic.length_keyLines {s t : String} (h : keypairs.SamePublic s t) :
    (keyLines s.toList).length = (keyLines t.toList).length :=
  (sameExceptOn_keyLines h).length_eq

end KeyFile

namespace KeyMaterial

variable {index : Nat} {keys other : KeyMaterial}

/-- **Keygroups are made of public keys.** -/
theorem keygroups_eq_of_related (h : Related KeyFile.SamePublic index keys other) :
    keys.keygroups = other.keygroups := by
  cases h with
  | authority hminer hsigner hsigners hminers =>
    obtain rfl := hsigners
    obtain rfl := hminers
    rfl
  | keypair hkeypairs hsigner hsigners hown hown' =>
    obtain rfl := hsigners
    refine zipWith_eq_of_map_eq (f := signerKey) ?_ rfl
      (map_public_records (sameExceptOn_keyLines hkeypairs))
    intro signer signer' record record' hsigner hpublic
    obtain ⟨hkey, hgenerator⟩ := Prod.mk.inj hpublic
    rw [proofGroup, proofGroup, hsigner, hkey, hgenerator]

/-- The secrets of a node are the same when the texts of its files are the same for it. -/
theorem secrets_eq_of_related (h : Related (KeyFile.SameForNode index) index keys other) :
    keys.secrets = other.secrets := by
  cases h with
  | authority hminer hsigner hsigners hminers =>
    obtain rfl := hminer
    obtain rfl := hsigner
    rfl
  | @keypair keypairs keypairs' _ _ _ _ _ _ hkeypairs hsigner hsigners hown hown' =>
    obtain rfl := hsigner
    -- The line of the own secret is none of those that may differ.
    have hline : (keyLines keypairs.toList)[3 * index]? = (keyLines keypairs'.toList)[3 * index]? :=
      (sameExceptOn_keyLines hkeypairs).getElem?_eq (by omega)
    rw [hown, hown'] at hline
    obtain rfl := Option.some.inj hline
    rfl

end KeyMaterial

/-! ## The secrets of other nodes -/

namespace Job

/-- Two trees that hold the same for the node of a job: the trees have the same paths, and the files
that the job reads hold the same, but for the secrets of other nodes. -/
structure SameInputs (job : Job) (site : Site) (first second : FileTree) : Prop where
  samePaths : first.SamePaths second
  sameKeys : ∀ file ∈ job.layout.files, Alike (file.SameForNode site.index)
    (first.readText (file.path site)) (second.readText (file.path site))
  sameTimeServers : first.readText site.timeServers = second.readText site.timeServers

/-- **A node is configured without the secrets of other nodes.** On trees that hold the same for its
node, a job reports the same and writes the same. -/
theorem endsAlike_of_sameInputs {job : Job} {cluster : Cluster} {site : Site}
    {first second : FileTree} (hresolve : job.arguments.resolve = .ok (cluster, site))
    (h : job.SameInputs site first second) : job.EndsAlike first second := by
  apply endsAlike_of_assemble h.samePaths
  intro cluster' site' hresolve'
  obtain ⟨rfl, rfl⟩ := Prod.mk.inj (Except.ok.inj (hresolve.symm.trans hresolve'))
  have hload := KeyMaterial.load_alike h.sameKeys fun s t hst => hst.samePublic.length_keyLines
  refine Document.assemble_alike hload h.sameTimeServers ?_ ?_
  · intro d d' hsame
    exact hsame.toSameCounts
  · intro keys other port timeServers peers hrelated
    have hsecrets : keys.secrets = other.secrets := KeyMaterial.secrets_eq_of_related hrelated
    have hkeygroups : keys.keygroups = other.keygroups :=
      KeyMaterial.keygroups_eq_of_related (hrelated.mono fun file s t hst => hst.samePublic)
    simp only [Document.ofKeys, Document.settingsOf, hsecrets, hkeygroups]
    exact .refl _

/-- The cluster of two nodes with other secrets of the second one. -/
def otherSecretsTree : FileTree :=
  (Document.pairTree.set ["bls.keypairs", "c", "w"] (.file "1\nA\nG\n0\r\r\nB\nG\n".toUTF8)).set
    ["signer_privkey", "node1", "c", "w"] (.file ⟨#[255]⟩)

/-- The two clusters have the same paths. -/
theorem samePaths_otherSecretsTree : Document.pairTree.SamePaths otherSecretsTree := by
  have hfiles : Document.pairTree.get? ["bls.keypairs", "c", "w"] =
        some (.file "1\nA\nG\n2\nB\nG\n".toUTF8) ∧
      Document.pairTree.get? ["signer_privkey", "node1", "c", "w"] = some (.file "s1".toUTF8) := by
    decide +kernel
  exact ((FileTree.SamePaths.refl Document.pairTree).set hfiles.1).set hfiles.2

/-- The two clusters hold the same for the first node. -/
theorem sameInputs_otherSecretsTree :
    SameInputs ⟨Document.pairArguments, .keypair, {}⟩ (.ofIndex ⟨"c"⟩ 0) Document.pairTree
      otherSecretsTree := by
  have hread : ∀ path ∈ [KeyFile.signerSecret.path (.ofIndex ⟨"c"⟩ 0),
      KeyFile.signers.path (.ofIndex ⟨"c"⟩ 0), Site.timeServers (.ofIndex ⟨"c"⟩ 0)],
      Document.pairTree.readText path = otherSecretsTree.readText path := by
    decide +kernel
  have hkeypairs : Document.pairTree.readText (KeyFile.keypairs.path (.ofIndex ⟨"c"⟩ 0)) =
        .ok "1\nA\nG\n2\nB\nG\n" ∧
      otherSecretsTree.readText (KeyFile.keypairs.path (.ofIndex ⟨"c"⟩ 0)) =
        .ok "1\nA\nG\n0\r\r\nB\nG\n" := by
    decide +kernel
  constructor
  case samePaths => exact samePaths_otherSecretsTree
  case sameKeys =>
    intro file hfile
    cases file with
    | minerSecret => exact absurd hfile (by decide)
    | miners => exact absurd hfile (by decide)
    | signerSecret =>
      rw [hread _ (by simp)]
      exact .refl (fun s => rfl) _
    | signers =>
      rw [hread _ (by simp)]
      exact .refl (fun s => rfl) _
    | keypairs =>
      rw [hkeypairs.1, hkeypairs.2]
      exact .ok (show SameExceptOn _ _ _ by decide +kernel)
  case sameTimeServers => exact hread _ (by simp)

/-- The first of two nodes is configured without the secrets of the second one. -/
theorem endsAlike_otherSecretsTree :
    Document.pairArguments.resolve = .ok (Document.pairCluster, .ofIndex ⟨"c"⟩ 0) ∧
    SameInputs ⟨Document.pairArguments, .keypair, {}⟩ (.ofIndex ⟨"c"⟩ 0) Document.pairTree
      otherSecretsTree ∧
    (generate ⟨Document.pairArguments, .keypair, {}⟩ Document.pairTree).1.result =
      .ok ⟨"c/node0/config"⟩ ∧
    EndsAlike ⟨Document.pairArguments, .keypair, {}⟩ Document.pairTree otherSecretsTree := by
  have hresolve : Document.pairArguments.resolve =
      .ok (Document.pairCluster, .ofIndex ⟨"c"⟩ 0) := rfl
  exact ⟨hresolve, sameInputs_otherSecretsTree, rfl,
    endsAlike_of_sameInputs hresolve sameInputs_otherSecretsTree⟩

/-! ## What is shown -/

/-- What a job reports does not depend on secrets. -/
theorem report_eq_of_samePublic {job : Job} {first second : FileTree}
    (h : first.KeysDifferBy KeyFile.SamePublic second) :
    (job.generate first).1 = (job.generate second).1 := by
  have hassemble : ∀ cluster site, job.arguments.resolve = .ok (cluster, site) →
      (Document.assemble first.readText job.layout cluster site job.options).Alike
        Document.SameCounts
        (Document.assemble second.readText job.layout cluster site job.options) := by
    intro cluster site _
    have hload := KeyMaterial.load_alike_of_keysDifferBy h job.layout site KeyFile.SamePublic.refl
      fun s t hst => hst.length_keyLines
    refine Document.assemble_alike hload (h.readText_timeServers site) (fun _ _ h => h) ?_
    intro keys other port timeServers peers hrelated
    exact ⟨rfl, congrArg List.length (KeyMaterial.keygroups_eq_of_related hrelated)⟩
  exact (generate_alike h.samePaths (fun _ _ hcounts => hcounts) hassemble).1

end Job

namespace CommandLine

/-- **No secret is shown.** On trees that differ in nothing but secrets, a command line ends with
the same exit code and shows the same output, the same log and the same report. -/
theorem run_eq_of_samePublic {arguments : List String} {first second : FileTree}
    (h : first.KeysDifferBy KeyFile.SamePublic second) :
    (run arguments first).1 = (run arguments second).1 := by
  unfold run
  cases Invocation.read arguments with
  | error refusal => rfl
  | ok invocation =>
    have hreport : (invocation.job.generate first).1 = (invocation.job.generate second).1 :=
      Job.report_eq_of_samePublic h
    exact congrArg invocation.toResult hreport

/-- The command line for the first of two nodes. -/
def pairLine : List String :=
  ["c", "--verbose", "0", "2", "a:1,b:2", "5", "7", "--variant", "keypair"]

/-- The cluster of two nodes with other secrets of both of them. -/
def secretsTree : FileTree :=
  (Document.pairTree.set ["bls.keypairs", "c", "w"] (.file "3\nA\nG\n4\r\nB\nG\n".toUTF8)).set
    ["signer_privkey", "node0", "c", "w"] (.file "".toUTF8)

/-- The secrets of two nodes are not shown. -/
theorem run_pairLine :
    Document.pairTree.KeysDifferBy KeyFile.SamePublic secretsTree ∧
    (run pairLine Document.pairTree).1.exitCode = 0 ∧
    (run pairLine Document.pairTree).1 = (run pairLine secretsTree).1 := by
  have hfiles : Document.pairTree.get? ["bls.keypairs", "c", "w"] =
        some (.file "1\nA\nG\n2\nB\nG\n".toUTF8) ∧
      Document.pairTree.get? ["signer_privkey", "node0", "c", "w"] =
        some (.file "s0\r\n".toUTF8) := by
    decide +kernel
  have hpublic : KeyFile.keypairs.SamePublic "1\nA\nG\n2\nB\nG\n" "3\nA\nG\n4\r\nB\nG\n" :=
    show SameExceptOn _ _ _ by decide +kernel
  have hdiffer : Document.pairTree.KeysDifferBy KeyFile.SamePublic secretsTree :=
    ((FileTree.KeysDifferBy.refl KeyFile.SamePublic Document.pairTree).set .keypairs hfiles.1
      hpublic).set .signerSecret hfiles.2 trivial
  exact ⟨hdiffer, by decide +kernel, run_eq_of_samePublic hdiffer⟩

end CommandLine

end ClusterConfig
