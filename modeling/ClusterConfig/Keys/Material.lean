/-
# Key material

The keys that a node is configured with, as they are read from the files of its layout, and the
keygroups that the public keys are paired to. Sources of different lengths are paired up to the
end of the shorter one.

Main statement: a proof keypair is three lines, and the keypair of the node with index `i` is
found at the lines from `3 * i` on (`records_getElem?`).
-/
import ClusterConfig.Keygroup
import ClusterConfig.Log

namespace ClusterConfig

open Text

/-! ## Reading files -/

/-- What reading the file at a path gives. -/
abbrev FileReader := Path → Except IoFault String

/-- Reads a file of keys. -/
def readKeyFile (files : FileReader) (path : Path) : Logged String := do
  Logged.note (.readingKeys path)
  Logged.ofExcept ((files path).mapError (.unreadable path))

/-- Reads a file that holds one secret key and nothing else but the end of its line. -/
def readSecret (files : FileReader) (path : Path) : Logged String := do
  return String.ofList (dropLineEnd (← readKeyFile files path).toList)

/-- Reads a file that may be absent. -/
def readOptionalFile (files : FileReader) (path : Path) : Logged (Option String) :=
  match files path with
  | .ok content => return some content
  | .error .notFound => do
    Logged.note (.optionalAbsent path)
    return none
  | .error fault => Logged.ofExcept (.error (.unreadable path fault))

/-- Reading a file of keys gives what the reader gives. -/
theorem result_readKeyFile (files : FileReader) (path : Path) :
    (readKeyFile files path).result = (files path).mapError (.unreadable path) := rfl

/-- A file of keys is read when the file at its path is. -/
theorem readKeyFile_eq_ok_iff {files : FileReader} {path : Path} {text : String} :
    (readKeyFile files path).result = .ok text ↔ files path = .ok text := by
  rw [result_readKeyFile]
  exact mapError_eq_ok_iff

/-- A file of keys that is not read is reported with its path. -/
theorem exists_unreadable_of_readKeyFile {files : FileReader} {path : Path} {failure : Failure}
    (h : (readKeyFile files path).result = .error failure) :
    ∃ fault, failure = .unreadable path fault := by
  rw [result_readKeyFile] at h
  obtain ⟨fault, -, hfault⟩ := mapError_eq_error_iff.mp h
  exact ⟨fault, hfault.symm⟩

/-- A secret is its file without the end of the line. -/
theorem readSecret_eq_ok_iff {files : FileReader} {path : Path} {secret : String} :
    (readSecret files path).result = .ok secret ↔
      ∃ text, files path = .ok text ∧ String.ofList (dropLineEnd text.toList) = secret := by
  rw [readSecret, Logged.result_bind_eq_ok_iff]
  simp only [readKeyFile_eq_ok_iff, Logged.pure_eq, Except.ok.injEq]

/-- A secret that is not read is reported with the path of its file. -/
theorem exists_unreadable_of_readSecret {files : FileReader} {path : Path} {failure : Failure}
    (h : (readSecret files path).result = .error failure) :
    ∃ fault, failure = .unreadable path fault := by
  rw [readSecret, Logged.result_bind_eq_error_iff] at h
  rcases h with h | ⟨text, -, h⟩
  · exact exists_unreadable_of_readKeyFile h
  · contradiction

/-- A file that may be absent is read, or it is not found. -/
theorem readOptionalFile_eq_ok_iff {files : FileReader} {path : Path} {found : Option String} :
    (readOptionalFile files path).result = .ok found ↔
      (∃ text, files path = .ok text ∧ found = some text) ∨
        files path = .error .notFound ∧ found = none := by
  unfold readOptionalFile
  split
  case h_1 text hfile => simp [hfile, eq_comm]
  case h_2 hfile => simp [hfile, Logged.note, eq_comm]
  case h_3 fault hfault hfile =>
    have hne : fault ≠ .notFound := hfault
    simp [hfile, hne, Logged.ofExcept]

/-- A file that may be absent but is not read is reported with its path. -/
theorem exists_unreadable_of_readOptionalFile {files : FileReader} {path : Path} {failure : Failure}
    (h : (readOptionalFile files path).result = .error failure) :
    ∃ fault, failure = .unreadable path fault := by
  unfold readOptionalFile at h
  split at h
  case h_1 text hfile => contradiction
  case h_2 hfile => simp [Logged.note] at h
  case h_3 fault hfault hfile => exact ⟨fault, (Except.error.inj h).symm⟩

/-! ## Proof keypairs -/

/-- The proof keypair of one node: three lines, each with its terminator. -/
structure ProofRecord where
  secret : List Char
  key : List Char
  generator : List Char
  deriving DecidableEq, Repr

/-- The complete records of three lines. -/
def records : List (List Char) → List ProofRecord
  | secret :: key :: generator :: rest => ⟨secret, key, generator⟩ :: records rest
  | _ => []

/-- A list that does not begin with three lines has no three lines. -/
theorem length_lt_three {lines : List (List Char)}
    (h : ∀ secret key generator rest, lines = secret :: key :: generator :: rest → False) :
    lines.length < 3 := by
  rcases lines with _ | ⟨a, _ | ⟨b, _ | ⟨c, rest⟩⟩⟩
  iterate 3 simp
  exact (h a b c rest rfl).elim

/-- There are as many records as there are times three lines. -/
theorem length_records (lines : List (List Char)) : (records lines).length = lines.length / 3 := by
  fun_induction records lines with
  | case1 secret key generator rest ih =>
    rw [List.length_cons, ih]
    simp only [List.length_cons]
    omega
  | case2 lines hshort =>
    rw [List.length_nil, Nat.div_eq_of_lt (length_lt_three hshort)]

/-- The record at an index has the lines from three times the index on. -/
theorem records_getElem? (lines : List (List Char)) (index : Nat) :
    (records lines)[index]? = do
      return ⟨← lines[3 * index]?, ← lines[3 * index + 1]?, ← lines[3 * index + 2]?⟩ := by
  fun_induction records lines generalizing index with
  | case1 secret key generator rest ih =>
    cases index with
    | zero => rfl
    | succ index => simpa [Nat.mul_succ, Nat.add_right_comm] using ih index
  | case2 lines hshort =>
    have hlength := length_lt_three hshort
    have hlast : lines[3 * index + 2]? = none := List.getElem?_eq_none (by omega)
    cases h : lines[3 * index]? <;> cases h' : lines[3 * index + 1]? <;> simp [hlast]

/-- The secret line of a node. Its public line has to be there too. -/
def ownSecret (path : Path) (lines : List (List Char)) (index : Nat) :
    Except Failure (List Char) :=
  match lines[3 * index]?, lines[3 * index + 1]? with
  | some secret, some _ => .ok secret
  | some _, none => .error (.missingLine path (3 * index + 1))
  | none, _ => .error (.missingLine path (3 * index))

/-- The secret line of a node is found when its public line is there too. -/
theorem ownSecret_eq_ok_iff {path : Path} {lines : List (List Char)} {index : Nat}
    {secret : List Char} :
    ownSecret path lines index = .ok secret ↔
      lines[3 * index]? = some secret ∧ 3 * index + 1 < lines.length := by
  unfold ownSecret
  split
  case h_1 found key hfound hkey =>
    have hlength : 3 * index + 1 < lines.length := (List.getElem?_eq_some_iff.mp hkey).1
    simp [hfound, hlength]
  case h_2 found hfound hkey =>
    have hlength : lines.length ≤ 3 * index + 1 := List.getElem?_eq_none_iff.mp hkey
    simp [hfound, hlength]
  case h_3 key hfound => simp [hfound]

/-- The keypairs stand in the order of the nodes: when a node finds its own, so do all nodes before
it. -/
theorem exists_ownSecret_of_le {path : Path} {lines : List (List Char)} {index earlier : Nat}
    {secret : List Char} (h : ownSecret path lines index = .ok secret) (hle : earlier ≤ index) :
    ∃ found, ownSecret path lines earlier = .ok found := by
  obtain ⟨-, hlength⟩ := ownSecret_eq_ok_iff.mp h
  have hearlier : 3 * earlier < lines.length := by omega
  exact ⟨lines[3 * earlier], ownSecret_eq_ok_iff.mpr
    ⟨List.getElem?_eq_getElem hearlier, by omega⟩⟩

/-! ## Key material -/

/-- The keys that a node is configured with. The public keys are the contents of their files. -/
inductive KeyMaterial where
  | authority (minerSecret signerSecret signers miners : String)
  | keypair (proofSecret signerSecret signers keypairs : String)
  deriving DecidableEq, Repr

namespace KeyMaterial

/-- Reads the files of a layout. -/
def load (files : FileReader) (layout : KeyLayout) (site : Site) : Logged KeyMaterial :=
  match layout with
  | .authority => do
    let minerSecret ← readSecret files (KeyFile.minerSecret.path site)
    let signerSecret ← readSecret files (KeyFile.signerSecret.path site)
    let signers ← readKeyFile files (KeyFile.signers.path site)
    let miners ← readKeyFile files (KeyFile.miners.path site)
    return .authority minerSecret signerSecret signers miners
  | .keypair => do
    let path := KeyFile.keypairs.path site
    let keypairs ← readKeyFile files path
    let signerSecret ← readSecret files (KeyFile.signerSecret.path site)
    let signers ← readKeyFile files (KeyFile.signers.path site)
    let secret ← Logged.ofExcept (ownSecret path (keyLines keypairs.toList) site.index)
    return .keypair (String.ofList secret) signerSecret signers keypairs

/-- Key material depends on nothing but the files of its layout. -/
theorem load_congr {first second : FileReader} {layout : KeyLayout} {site : Site}
    (h : ∀ path ∈ layout.files.map (·.path site), first path = second path) :
    load first layout site = load second layout site := by
  have hfile : ∀ file ∈ layout.files, first (file.path site) = second (file.path site) :=
    fun file hmem => h _ (List.mem_map_of_mem hmem)
  cases layout <;>
    simp [KeyLayout.files] at hfile <;>
    simp [load, readSecret, readKeyFile, hfile]

/-- The key material of the authority layout is read when its four files are. -/
theorem load_authority_eq_ok_iff {files : FileReader} {site : Site} {keys : KeyMaterial} :
    (load files .authority site).result = .ok keys ↔
      ∃ minerSecret signerSecret signers miners,
        (readSecret files (KeyFile.minerSecret.path site)).result = .ok minerSecret ∧
        (readSecret files (KeyFile.signerSecret.path site)).result = .ok signerSecret ∧
        files (KeyFile.signers.path site) = .ok signers ∧
        files (KeyFile.miners.path site) = .ok miners ∧
        .authority minerSecret signerSecret signers miners = keys := by
  simp only [load, Logged.result_bind_eq_ok_iff, readKeyFile_eq_ok_iff, Logged.pure_eq,
    Except.ok.injEq, exists_and_left]

/-- The key material of the keypair layout is read when its three files are, and the keypair of the
node is among those of the cluster. -/
theorem load_keypair_eq_ok_iff {files : FileReader} {site : Site} {keys : KeyMaterial} :
    (load files .keypair site).result = .ok keys ↔
      ∃ keypairs signerSecret signers secret,
        files (KeyFile.keypairs.path site) = .ok keypairs ∧
        (readSecret files (KeyFile.signerSecret.path site)).result = .ok signerSecret ∧
        files (KeyFile.signers.path site) = .ok signers ∧
        ownSecret (KeyFile.keypairs.path site) (keyLines keypairs.toList) site.index = .ok secret ∧
        .keypair (String.ofList secret) signerSecret signers keypairs = keys := by
  simp only [load, Logged.result_bind_eq_ok_iff, readKeyFile_eq_ok_iff, Logged.pure_eq,
    Logged.ofExcept, Except.ok.injEq, exists_and_left]

/-- Key material is missing because a file is not read, or because the keypairs do not reach up to
the node. -/
theorem failure_of_load {files : FileReader} {layout : KeyLayout} {site : Site} {failure : Failure}
    (h : (load files layout site).result = .error failure) :
    (∃ path fault, failure = .unreadable path fault) ∨
      ∃ keypairs, layout = .keypair ∧ files (KeyFile.keypairs.path site) = .ok keypairs ∧
        ownSecret (KeyFile.keypairs.path site) (keyLines keypairs.toList) site.index =
          .error failure := by
  cases layout with
  | authority =>
    left
    simp only [load, Logged.result_bind_eq_error_iff] at h
    rcases h with h | ⟨_, -, h | ⟨_, -, h | ⟨_, -, h | ⟨_, -, h⟩⟩⟩⟩
    · exact ⟨_, exists_unreadable_of_readSecret h⟩
    · exact ⟨_, exists_unreadable_of_readSecret h⟩
    · exact ⟨_, exists_unreadable_of_readKeyFile h⟩
    · exact ⟨_, exists_unreadable_of_readKeyFile h⟩
    · contradiction
  | keypair =>
    simp only [load, Logged.result_bind_eq_error_iff] at h
    -- The own lines are looked for last, after all files have been read.
    rcases h with h | ⟨keypairs, hkeypairs, h | ⟨_, -, h | ⟨_, -, h | ⟨_, -, h⟩⟩⟩⟩
    · exact Or.inl ⟨_, exists_unreadable_of_readKeyFile h⟩
    · exact Or.inl ⟨_, exists_unreadable_of_readSecret h⟩
    · exact Or.inl ⟨_, exists_unreadable_of_readKeyFile h⟩
    · exact Or.inr ⟨keypairs, rfl, readKeyFile_eq_ok_iff.mp hkeypairs, h⟩
    · contradiction

/-- The secret keys as settings. -/
def secrets : KeyMaterial → List Field
  | authority minerSecret signerSecret _ _ =>
    [⟨"miner_private_key", .text minerSecret⟩, ⟨"signer_private_key", .text signerSecret⟩]
  | keypair proofSecret signerSecret _ _ =>
    [⟨"proof_private_key", .literal proofSecret⟩, ⟨"signer_private_key", .text signerSecret⟩]

/-! ## Keygroups -/

/-- The miner key on a line. -/
def minerKey (line : List Char) : String := String.ofList (dropTerminator line)

/-- The signer key on a line, without the blanks after it. -/
def signerKey (line : List Char) : String := String.ofList (trimEnd line)

/-- A signer key paired with a miner key. -/
def authorityGroup (signer miner : List Char) : Keygroup :=
  .authority (minerKey miner) (signerKey signer)

/-- A signer key paired with a proof key. -/
def proofGroup (signer : List Char) (record : ProofRecord) : Keygroup :=
  .proof (String.ofList record.key) (String.ofList record.generator) (signerKey signer)

/-- The keygroups of the cluster in the order of the signer keys. -/
def keygroups : KeyMaterial → List Keygroup
  | authority _ _ signers miners =>
    List.zipWith authorityGroup (keyLines signers.toList) (keyLines miners.toList)
  | keypair _ _ signers keypairs =>
    List.zipWith proofGroup (keyLines signers.toList) (records (keyLines keypairs.toList))

end KeyMaterial

end ClusterConfig
