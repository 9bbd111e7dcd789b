/-
# Two runs of one job

A job is run on two file trees with the same paths, and the files of keys hold texts that stand in a
given relation. Main statement: if the documents that are assembled from such texts have as many
tables, then both runs report the same, and the files that they write hold the two documents
(`Job.generate_alike`).

The relation is carried along the run: from the files to the key material (`KeyMaterial.Related`),
and from there to the document. What it is, is left open here.
-/
import ClusterConfig.Job
import ClusterConfig.Proofs.FileTree.SamePaths

namespace ClusterConfig

open Text
open ClusterConfig.Path (IsPlainName)

/-! ## Trees that differ in the files of keys -/

namespace KeyFile

/-- The name of a file of keys. -/
def name : KeyFile → String
  | minerSecret => "miner_privkey"
  | signerSecret => "signer_privkey"
  | signers => "signer_authorities"
  | miners => "miner_authorities"
  | keypairs => "bls.keypairs"

/-- A file of keys has a plain name. -/
theorem isPlainName_name (file : KeyFile) : IsPlainName file.name := by
  cases file <;> decide

/-- Different files of keys have different names. -/
theorem name_injective {first second : KeyFile} (h : first.name = second.name) :
    first = second := by
  cases first <;> cases second <;> simp [name] at h ⊢

/-- A file of keys is found under its name. -/
theorem exists_path_eq_join (file : KeyFile) (site : Site) :
    ∃ base : Path, file.path site = base.join file.name := by
  cases file <;> exact ⟨_, rfl⟩

end KeyFile

namespace FileTree

/-- Two trees with the same paths, in which files hold the same, except that files of keys, wherever
they are, may hold texts in a relation that depends on their name. -/
structure KeysDifferBy (change : KeyFile → String → String → Prop) (first second : FileTree) :
    Prop where
  samePaths : SamePaths first second
  contents : ∀ name above content other, first.get? (name :: above) = some (.file content) →
    second.get? (name :: above) = some (.file other) →
    content = other ∨ ∃ (file : KeyFile) (s t : String),
      file.name = name ∧ content = s.toUTF8 ∧ other = t.toUTF8 ∧ change file s t

namespace KeysDifferBy

variable {change : KeyFile → String → String → Prop} {first second : FileTree}

/-- A tree does not differ from itself. -/
theorem refl (change : KeyFile → String → String → Prop) (tree : FileTree) :
    KeysDifferBy change tree tree where
  samePaths := .refl tree
  contents := by
    intro name above content other hfirst hsecond
    rw [hfirst] at hsecond
    exact Or.inl (Entry.file.inj (Option.some.inj hsecond))

/-- One more file of keys holds another text in the relation. -/
theorem set {above : Location} {s t : String} (h : KeysDifferBy change first second)
    (file : KeyFile) (hfirst : first.get? (file.name :: above) = some (.file s.toUTF8))
    (hchange : change file s t) :
    KeysDifferBy change first (second.set (file.name :: above) (.file t.toUTF8)) where
  samePaths := h.samePaths.set hfirst
  contents := by
    intro name place before after hbefore hafter
    rw [get?_set second _ (List.cons_ne_nil _ _)] at hafter
    split at hafter
    · next heq =>
      obtain ⟨rfl, rfl⟩ := List.cons.inj heq
      rw [hfirst] at hbefore
      have hs := Entry.file.inj (Option.some.inj hbefore)
      have ht := Entry.file.inj (Option.some.inj hafter)
      exact Or.inr ⟨file, s, t, rfl, hs.symm, ht.symm, hchange⟩
    · exact h.contents name place before after hbefore hafter

/-- Trees that differ by a change differ by every change that it implies. -/
theorem mono {weaker : KeyFile → String → String → Prop} (h : KeysDifferBy change first second)
    (hweaker : ∀ file s t, change file s t → weaker file s t) :
    KeysDifferBy weaker first second where
  samePaths := h.samePaths
  contents := by
    intro name above content other hfirst hsecond
    rcases h.contents name above content other hfirst hsecond with
      heq | ⟨file, s, t, hname, hs, ht, hst⟩
    · exact Or.inl heq
    · exact Or.inr ⟨file, s, t, hname, hs, ht, hweaker file s t hst⟩

/-- A file of keys reads as two texts in the relation, if it holds between every text and itself. -/
theorem readText_keyFile (h : KeysDifferBy change first second) {file : KeyFile}
    (hrefl : ∀ s, change file s s) (site : Site) :
    Alike (change file) (first.readText (file.path site)) (second.readText (file.path site)) := by
  obtain ⟨base, hpath⟩ := file.exists_path_eq_join site
  rw [hpath]
  apply h.samePaths.readText_join file.isPlainName_name
  intro above content other hfirst hsecond
  rcases h.contents _ above content other hfirst hsecond with
    rfl | ⟨found, s, t, hname, rfl, rfl, hst⟩
  · exact .refl hrefl _
  · obtain rfl := KeyFile.name_injective hname
    rw [decodeText_toUTF8, decodeText_toUTF8]
    exact .ok hst

/-- The time servers are in no file of keys. -/
theorem readText_timeServers (h : KeysDifferBy change first second) (site : Site) :
    first.readText site.timeServers = second.readText site.timeServers := by
  have hname : IsPlainName "ntp_servers" := by decide
  apply Alike.eq
  apply h.samePaths.readText_join hname
  intro above content other hfirst hsecond
  rcases h.contents _ above content other hfirst hsecond with rfl | ⟨found, s, t, hfound, -⟩
  · apply Alike.refl
    exact fun s => rfl
  · cases found <;> simp [KeyFile.name] at hfound

end KeysDifferBy

end FileTree

/-! ## Reading keys -/

section

variable {first second : FileReader} {path : Path} {related : String → String → Prop}

/-- The secret in the text of its file. -/
def secretIn (text : String) : String := String.ofList (dropLineEnd text.toList)

/-- Files of keys that are alike are read alike. -/
theorem readKeyFile_alike (h : Alike related (first path) (second path)) :
    (readKeyFile first path).Alike related (readKeyFile second path) :=
  .bind_same fun _ _ => .ofExcept (h.mapError _)

/-- Files of secrets that are alike are read alike. -/
theorem readSecret_alike (h : Alike related (first path) (second path)) :
    (readSecret first path).Alike
      (fun a b => ∃ s t, related s t ∧ a = secretIn s ∧ b = secretIn t) (readSecret second path) :=
  (readKeyFile_alike h).bind fun s t hst => .pure ⟨s, t, hst, rfl, rfl⟩

end

/-- In two lists of as many lines, a node finds or misses its own secret in the same way. -/
theorem ownSecret_alike {path : Path} {lines others : List (List Char)} {index : Nat}
    (hlength : lines.length = others.length) :
    Alike (fun own other => lines[3 * index]? = some own ∧ others[3 * index]? = some other)
      (ownSecret path lines index) (ownSecret path others index) := by
  unfold ownSecret
  by_cases hsecret : 3 * index < lines.length
  · rw [List.getElem?_eq_getElem hsecret, List.getElem?_eq_getElem (hlength ▸ hsecret)]
    by_cases hkey : 3 * index + 1 < lines.length
    · rw [List.getElem?_eq_getElem hkey, List.getElem?_eq_getElem (hlength ▸ hkey)]
      exact .ok ⟨rfl, rfl⟩
    · rw [List.getElem?_eq_none (Nat.le_of_not_lt hkey),
        List.getElem?_eq_none (Nat.le_of_not_lt (hlength ▸ hkey))]
      exact .error _
  · rw [List.getElem?_eq_none (Nat.le_of_not_lt hsecret),
      List.getElem?_eq_none (Nat.le_of_not_lt (hlength ▸ hsecret))]
    exact .error _

/-- Lists are paired to the same when a pair depends on nothing but what is the same in them. -/
theorem zipWith_eq_of_map_eq {α β γ δ ε : Type} {pair : α → β → γ} {f : α → δ} {g : β → ε}
    (hpair : ∀ a a' b b', f a = f a' → g b = g b' → pair a b = pair a' b')
    {left left' : List α} {right right' : List β} (hleft : left.map f = left'.map f)
    (hright : right.map g = right'.map g) :
    List.zipWith pair left right = List.zipWith pair left' right' := by
  induction left generalizing left' right right' with
  | nil =>
    obtain rfl := List.map_eq_nil_iff.mp hleft.symm
    rfl
  | cons a left ih =>
    obtain ⟨a', left', rfl, ha, hleft⟩ := List.map_eq_cons_iff.mp hleft.symm
    cases right with
    | nil =>
      obtain rfl := List.map_eq_nil_iff.mp hright.symm
      rfl
    | cons b right =>
      obtain ⟨b', right', rfl, hb, hright⟩ := List.map_eq_cons_iff.mp hright.symm
      rw [List.zipWith_cons_cons, List.zipWith_cons_cons, hpair a a' b b' ha.symm hb.symm,
        ih hleft.symm hright.symm]

namespace KeyMaterial

/-- The key material of a node that is read from two families of files in a relation. -/
inductive Related (related : KeyFile → String → String → Prop) (index : Nat) :
    KeyMaterial → KeyMaterial → Prop
  | authority {miner miner' signer signer' signers signers' miners miners' : String}
      (hminer : related .minerSecret miner miner') (hsigner : related .signerSecret signer signer')
      (hsigners : related .signers signers signers') (hminers : related .miners miners miners') :
      Related related index (.authority (secretIn miner) (secretIn signer) signers miners)
        (.authority (secretIn miner') (secretIn signer') signers' miners')
  | keypair {keypairs keypairs' signer signer' signers signers' : String} {own own' : List Char}
      (hkeypairs : related .keypairs keypairs keypairs')
      (hsigner : related .signerSecret signer signer')
      (hsigners : related .signers signers signers')
      (hown : (keyLines keypairs.toList)[3 * index]? = some own)
      (hown' : (keyLines keypairs'.toList)[3 * index]? = some own') :
      Related related index (.keypair (String.ofList own) (secretIn signer) signers keypairs)
        (.keypair (String.ofList own') (secretIn signer') signers' keypairs')

variable {first second : FileReader} {layout : KeyLayout} {site : Site}
  {related weaker : KeyFile → String → String → Prop}

/-- Key material that is related under a relation of files is related under a weaker one. -/
theorem Related.mono {index : Nat} {keys other : KeyMaterial} (h : Related related index keys other)
    (hweaker : ∀ file s t, related file s t → weaker file s t) :
    Related weaker index keys other := by
  cases h with
  | authority hminer hsigner hsigners hminers =>
    exact .authority (hweaker _ _ _ hminer) (hweaker _ _ _ hsigner) (hweaker _ _ _ hsigners)
      (hweaker _ _ _ hminers)
  | keypair hkeypairs hsigner hsigners hown hown' =>
    exact .keypair (hweaker _ _ _ hkeypairs) (hweaker _ _ _ hsigner) (hweaker _ _ _ hsigners) hown
      hown'

/-- Key material is read alike from files that are alike, if the keypairs have as many lines. -/
theorem load_alike
    (hfiles : ∀ file ∈ layout.files,
      Alike (related file) (first (file.path site)) (second (file.path site)))
    (hlines : ∀ s t : String, related .keypairs s t →
      (keyLines s.toList).length = (keyLines t.toList).length) :
    (load first layout site).Alike (Related related site.index) (load second layout site) := by
  cases layout with
  | authority =>
    refine (readSecret_alike (hfiles .minerSecret (by decide))).bind ?_
    rintro _ _ ⟨miner, miner', hminer, rfl, rfl⟩
    refine (readSecret_alike (hfiles .signerSecret (by decide))).bind ?_
    rintro _ _ ⟨signer, signer', hsigner, rfl, rfl⟩
    refine (readKeyFile_alike (hfiles .signers (by decide))).bind ?_
    intro signers signers' hsigners
    refine (readKeyFile_alike (hfiles .miners (by decide))).bind ?_
    intro miners miners' hminers
    exact .pure (.authority hminer hsigner hsigners hminers)
  | keypair =>
    refine (readKeyFile_alike (hfiles .keypairs (by decide))).bind ?_
    intro keypairs keypairs' hkeypairs
    refine (readSecret_alike (hfiles .signerSecret (by decide))).bind ?_
    rintro _ _ ⟨signer, signer', hsigner, rfl, rfl⟩
    refine (readKeyFile_alike (hfiles .signers (by decide))).bind ?_
    intro signers signers' hsigners
    refine (Logged.Alike.ofExcept (ownSecret_alike (hlines _ _ hkeypairs))).bind ?_
    rintro own own' ⟨hown, hown'⟩
    exact .pure (.keypair hkeypairs hsigner hsigners hown hown')

/-- Key material is read alike on trees that differ in files of keys. -/
theorem load_alike_of_keysDifferBy {first second : FileTree}
    (h : first.KeysDifferBy related second) (layout : KeyLayout) (site : Site)
    (hrefl : ∀ file s, related file s s)
    (hlines : ∀ s t : String, related .keypairs s t →
      (keyLines s.toList).length = (keyLines t.toList).length) :
    (load first.readText layout site).Alike (Related related site.index)
      (load second.readText layout site) :=
  load_alike (fun file _ => h.readText_keyFile (hrefl file) site) hlines

end KeyMaterial

/-! ## Documents -/

namespace Document

/-- Two documents with as many tables of each kind. -/
structure SameCounts (first second : Document) : Prop where
  peers : first.peers.length = second.peers.length
  keygroups : first.keygroups.length = second.keygroups.length

/-- Two documents with as many tables of each kind that are written as the same text. -/
structure SameText (first second : Document) : Prop extends SameCounts first second where
  render_eq : first.render = second.render

/-- A document is written as its own text. -/
theorem SameText.refl (document : Document) : SameText document document := ⟨⟨rfl, rfl⟩, rfl⟩

/-- The document of a node with some key material, once everything else is known. -/
def ofKeys (layout : KeyLayout) (cluster : Cluster) (index : Nat) (port : UInt16)
    (options : Options) (timeServers : Option String) (peers : List Peer) (keys : KeyMaterial) :
    Document :=
  ⟨settingsOf layout cluster index port options keys timeServers, peers, keys.keygroups⟩

variable {first second : FileReader} {layout : KeyLayout} {cluster : Cluster} {site : Site}
  {options : Options} {keysRelated : KeyMaterial → KeyMaterial → Prop}
  {related : Document → Document → Prop}

/-- Documents are assembled alike from key material that is read alike. -/
theorem assemble_alike
    (hload : (KeyMaterial.load first layout site).Alike keysRelated
      (KeyMaterial.load second layout site))
    (htimeServers : first site.timeServers = second site.timeServers)
    (hcounts : ∀ d d', related d d' → SameCounts d d')
    (hkeys : ∀ keys other port timeServers peers, keysRelated keys other →
      related (ofKeys layout cluster site.index port options timeServers peers keys)
        (ofKeys layout cluster site.index port options timeServers peers other)) :
    (assemble first layout cluster site options).Alike related
      (assemble second layout cluster site options) := by
  have hoptional :
      readOptionalFile first site.timeServers = readOptionalFile second site.timeServers := by
    rw [readOptionalFile, readOptionalFile, htimeServers]
  unfold assemble
  split
  · exact ⟨rfl, .error _⟩
  · refine hload.bind fun keys other hrelated => ?_
    rw [hoptional]
    refine .bind_same fun timeServers _ => ?_
    refine .bind_same fun address _ => ?_
    refine .bind_same fun peers _ => ?_
    have hdocument := hkeys keys other address.port timeServers peers hrelated
    have hlength : keys.keygroups.length = other.keygroups.length :=
      (hcounts _ _ hdocument).keygroups
    simp only [hlength]
    exact .bind_same fun _ _ => .pure hdocument

end Document

/-! ## Runs -/

namespace Job

variable {job : Job} {first second : FileTree} {related : Document → Document → Prop}

/-- A job is planned alike when its document is assembled alike. -/
theorem plan_alike {files others : FileReader}
    (hassemble : ∀ cluster site, job.arguments.resolve = .ok (cluster, site) →
      (Document.assemble files job.layout cluster site job.options).Alike related
        (Document.assemble others job.layout cluster site job.options)) :
    (job.plan files).Alike (fun plan other => plan.path = other.path ∧
      related plan.document other.document) (job.plan others) := by
  refine .bind_same fun (cluster, site) hresolve => ?_
  refine .bind_same fun _ _ => ?_
  refine (hassemble cluster site hresolve).bind fun document other hrelated => ?_
  exact .pure ⟨rfl, hrelated⟩

/-- **Two runs of one job.** On trees with the same paths, and with documents that are assembled
alike, the job reports the same, and what it writes are two such documents. -/
theorem generate_alike (hpaths : first.SamePaths second)
    (hcounts : ∀ d d', related d d' → Document.SameCounts d d')
    (hassemble : ∀ cluster site, job.arguments.resolve = .ok (cluster, site) →
      (Document.assemble first.readText job.layout cluster site job.options).Alike related
        (Document.assemble second.readText job.layout cluster site job.options)) :
    (job.generate first).1 = (job.generate second).1 ∧
      ∀ path, (job.generate first).1.result = .ok path → ∃ document other,
        related document other ∧
        (job.generate first).2.readBytes path = .ok document.render.toUTF8 ∧
        (job.generate second).2.readBytes path = .ok other.render.toUTF8 := by
  have hplan := plan_alike hassemble
  constructor
  · rw [generate_report, generate_report]
    apply Logged.Alike.eq
    refine hplan.bind fun plan other ⟨hpath, hrelated⟩ => ?_
    obtain ⟨hpeers, hkeygroups⟩ := hcounts _ _ hrelated
    rw [← hpath, ← hpaths.target_eq]
    cases first.target plan.path with
    | error fault =>
      refine ⟨rfl, ?_⟩
      simp only [Except.map, Plan.conclude, hpath]
      exact .error _
    | ok location =>
      simp only [Except.map, Plan.conclude, hpath, hpeers, hkeygroups]
      exact ⟨rfl, .ok rfl⟩
  · intro path hresult
    rw [generate_report, Logged.result_bind_eq_ok_iff] at hresult
    obtain ⟨plan, hfirst, hconclude⟩ := hresult
    obtain ⟨other, hsecond, hpath, hrelated⟩ := hplan.result_alike.exists_of_ok hfirst
    cases htarget : first.target plan.path with
    | error fault =>
      rw [htarget] at hconclude
      contradiction
    | ok location =>
      rw [htarget] at hconclude
      obtain rfl : plan.path = path := Except.ok.inj hconclude
      have htarget' : second.target other.path = .ok location := by
        rw [← hpath, ← hpaths.target_eq, htarget]
      refine ⟨plan.document, other.document, hrelated, ?_, ?_⟩
      · rw [(generate_tree_of_plan hfirst htarget).2]
        exact FileTree.readBytes_set_target htarget
      · rw [(generate_tree_of_plan hsecond htarget').2, hpath]
        exact FileTree.readBytes_set_target htarget'

/-- A job ends alike on two trees: it reports the same, and if it succeeds, it writes the same. -/
structure EndsAlike (job : Job) (first second : FileTree) : Prop where
  report_eq : (job.generate first).1 = (job.generate second).1
  written_eq : ∀ path, (job.generate first).1.result = .ok path → ∃ content,
    (job.generate first).2.readBytes path = .ok content ∧
    (job.generate second).2.readBytes path = .ok content

/-- A job ends alike on trees with the same paths if its document is assembled to the same text. -/
theorem endsAlike_of_assemble (hpaths : first.SamePaths second)
    (hassemble : ∀ cluster site, job.arguments.resolve = .ok (cluster, site) →
      (Document.assemble first.readText job.layout cluster site job.options).Alike Document.SameText
        (Document.assemble second.readText job.layout cluster site job.options)) :
    job.EndsAlike first second := by
  have hcounts : ∀ d d', Document.SameText d d' → Document.SameCounts d d' :=
    fun d d' hsame => hsame.toSameCounts
  obtain ⟨hreport, hwritten⟩ := generate_alike hpaths hcounts hassemble
  refine ⟨hreport, fun path hpath => ?_⟩
  obtain ⟨document, other, hsame, hfirst, hsecond⟩ := hwritten path hpath
  rw [← hsame.render_eq] at hsecond
  exact ⟨_, hfirst, hsecond⟩

end Job

end ClusterConfig
