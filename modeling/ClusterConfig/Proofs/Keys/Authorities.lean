/-
# Authorities in pairs

In the authority layout the signer keys and the miner keys of a cluster are the lines of two files.
Main statement: the keygroups pair these lines one by one, up to the end of the shorter source,
where a source ends at its first blank line (`keygroups_pair_sourceLines`). What stands after a
blank line counts for nothing, and lines that are added at the end only add keygroups.

Carriage returns alone make a line blank. So a line of other blanks is not the end of its source: it
is paired, and a signer on it is left with an empty key.
-/
import ClusterConfig.Keys.Material
import ClusterConfig.Proofs.Text.KeySources

namespace ClusterConfig

open Text

/-- Lists that begin alike are paired to lists that begin alike. -/
theorem zipWith_prefix_zipWith {α β γ : Type} (pair : α → β → γ) {left left' : List α}
    {right right' : List β} (hleft : left <+: left') (hright : right <+: right') :
    List.zipWith pair left right <+: List.zipWith pair left' right' := by
  induction left generalizing left' right right' with
  | nil => exact List.nil_prefix
  | cons a left ih =>
    obtain ⟨left', rfl, hleft_tail⟩ := List.cons_prefix_iff.mp hleft
    cases right with
    | nil => exact List.nil_prefix
    | cons b right =>
      obtain ⟨right', rfl, hright_tail⟩ := List.cons_prefix_iff.mp hright
      exact List.cons_prefix_cons.mpr ⟨rfl, ih hleft_tail hright_tail⟩

namespace KeyMaterial

/-- The keys on a line of signers and a line of miners. A miner key lacks the carriage returns at
the end of its line, a signer key all blanks there. Only a signer key can be empty. -/
structure KeysOn (signer miner minerKey signerKey : List Char) : Prop where
  minerCut : CutsOff (· = '\r') miner minerKey
  signerCut : CutsOff isBlank signer signerKey
  minerOneLine : '\n' ∉ minerKey
  signerOneLine : '\n' ∉ signerKey
  minerNotEmpty : minerKey ≠ []
  signerEmpty_iff : signerKey = [] ↔ (∀ c ∈ signer, isBlank c = true) ∧ ∃ c ∈ signer, c ≠ '\r'

/-- The lines of two sources hold keys. -/
theorem keysOn_of_mem_sourceLines {signers miners signer miner : List Char}
    (hsigner : signer ∈ sourceLines signers) (hminer : miner ∈ sourceLines miners) :
    KeysOn signer miner (miner.rdropWhile (· = '\r')) (trimEnd signer) := by
  obtain ⟨hsignerFeed, hsignerFull⟩ := of_mem_sourceLines hsigner
  obtain ⟨hminerFeed, c, hc, hminerFull⟩ := of_mem_sourceLines hminer
  have hminerCut := cutsOff_rdropWhile (· = '\r') miner
  have hsignerCut := cutsOff_rdropWhile isBlank signer
  refine ⟨hminerCut, hsignerCut, fun hfeed => hminerFeed (hminerCut.mem hfeed),
    fun hfeed => hsignerFeed (hsignerCut.mem hfeed), ?_, ?_⟩
  · intro hnil
    have hreturn := List.rdropWhile_eq_nil_iff.mp hnil c hc
    exact hminerFull (by simpa using hreturn)
  · rw [trimEnd_eq, List.rdropWhile_eq_nil_iff]
    exact (and_iff_left hsignerFull).symm

variable (minerSecret signerSecret : String)

/-- A keygroup is made of the lines at its place. -/
theorem getElem?_keygroups {signers miners : String} {index : Nat} {signer miner : List Char}
    (hsigner : (sourceLines signers.toList)[index]? = some signer)
    (hminer : (sourceLines miners.toList)[index]? = some miner) :
    (authority minerSecret signerSecret signers miners).keygroups[index]? =
      some (.authority (String.ofList (miner.rdropWhile (· = '\r')))
        (String.ofList (trimEnd signer))) := by
  -- A line of the source is a key line, which may have a line feed more.
  rw [← map_dropLineFeed_keyLines, List.getElem?_map, Option.map_eq_some_iff] at hsigner hminer
  obtain ⟨signerLine, hsignerLine, rfl⟩ := hsigner
  obtain ⟨minerLine, hminerLine, rfl⟩ := hminer
  have hbody {s line : List Char} (h : (keyLines s)[index]? = some line) : '\n' ∉ line.dropLast :=
    not_mem_dropLast_of_mem_lines (List.takeWhile_subset _ (List.mem_of_getElem? h))
  have hsignerKey : trimEnd (dropLineFeed signerLine) = trimEnd signerLine :=
    rdropWhile_dropLineFeed (by decide) (hbody hsignerLine)
  rw [dropReturns_dropLineFeed (hbody hminerLine), hsignerKey]
  exact List.getElem?_zipWith_eq_some.mpr ⟨_, _, hsignerLine, hminerLine, rfl⟩

/-- **Signer and miner keys are paired line by line**, up to the end of the shorter source. The two
keys of a keygroup stand at the same place in their sources. What is changed after a blank line
changes no keygroup, and a source that goes on keeps the keygroups it had. -/
theorem keygroups_pair_sourceLines (signers miners : String) :
    (authority minerSecret signerSecret signers miners).keygroups.length =
      min (sourceLines signers.toList).length (sourceLines miners.toList).length ∧
    (∀ (index : Nat) (signer miner : List Char),
      (sourceLines signers.toList)[index]? = some signer →
      (sourceLines miners.toList)[index]? = some miner →
      ∃ minerKey signerKey : List Char,
        (authority minerSecret signerSecret signers miners).keygroups[index]? =
          some (.authority (String.ofList minerKey) (String.ofList signerKey)) ∧
        KeysOn signer miner minerKey signerKey) ∧
    (∀ signers' miners', SameToBlankLine signers.toList signers'.toList →
      SameToBlankLine miners.toList miners'.toList →
      (authority minerSecret signerSecret signers' miners').keygroups =
        (authority minerSecret signerSecret signers miners).keygroups) ∧
    ∀ signers' miners', Continues signers.toList signers'.toList →
      Continues miners.toList miners'.toList →
      (authority minerSecret signerSecret signers miners).keygroups <+:
        (authority minerSecret signerSecret signers' miners').keygroups := by
  refine ⟨?_, ?_, ?_, ?_⟩
  · rw [keygroups, List.length_zipWith, length_sourceLines, length_sourceLines]
  · intro index signer miner hsigner hminer
    exact ⟨_, _, getElem?_keygroups minerSecret signerSecret hsigner hminer,
      keysOn_of_mem_sourceLines (List.mem_of_getElem? hsigner) (List.mem_of_getElem? hminer)⟩
  · intro signers' miners' hsigners hminers
    rw [keygroups, keygroups, keyLines_eq_of_sameToBlankLine hsigners,
      keyLines_eq_of_sameToBlankLine hminers]
  · intro signers' miners' hsigners hminers
    exact zipWith_prefix_zipWith authorityGroup (keyLines_prefix_of_continues hsigners)
      (keyLines_prefix_of_continues hminers)

/-- Three lines of signers before a blank line. The second one is made of blanks. -/
def signerLines : String := "s0 \r\n \t\r\ns2\r\r\n\r\nold"

/-- The same lines with others after the blank line. -/
def otherSignerLines : String := "s0 \r\n \t\r\ns2\r\r\n\r\nnew\n"

/-- Two lines of miners. -/
def minerLines : String := "m0 \r\nm1\n"

/-- The same lines and a third one, without its end. -/
def moreMinerLines : String := "m0 \r\nm1\n m 2 "

/-- Two of the signers are paired, then all three. The blanks of a miner are kept, and the second
signer is left with an empty key. -/
theorem keygroups_signerLines :
    (authority "" "" signerLines minerLines).keygroups =
      [.authority "m0 " "s0", .authority "m1" ""] ∧
    KeysOn " \t\r".toList "m1".toList "m1".toList "".toList ∧
    (authority "" "" otherSignerLines minerLines).keygroups =
      (authority "" "" signerLines minerLines).keygroups ∧
    (authority "" "" signerLines moreMinerLines).keygroups =
      [.authority "m0 " "s0", .authority "m1" "", .authority " m 2 " "s2"] ∧
    (authority "" "" signerLines minerLines).keygroups <+:
      (authority "" "" signerLines moreMinerLines).keygroups := by
  have hgroups : (authority "" "" signerLines minerLines).keygroups =
      [.authority "m0 " "s0", .authority "m1" ""] := by decide +kernel
  have hbefore : EndsLine "s0 \r\n \t\r\ns2\r\r\n".toList := by decide
  have hsigners : SameToBlankLine signerLines.toList otherSignerLines.toList :=
    .blank hbefore 1 "old".toList "new\n".toList
  have hminers : Continues minerLines.toList moreMinerLines.toList := by
    have hends : EndsLine minerLines.toList := by decide
    refine .more hends ?_ " m 2 ".toList
    rw [holdsBlankLine_iff hends]
    decide
  obtain ⟨-, hpairs, hsame, hmore⟩ := keygroups_pair_sourceLines "" "" signerLines minerLines
  obtain ⟨minerKey, signerKey, hgroup, hkeys⟩ :=
    hpairs 1 " \t\r".toList "m1".toList (by decide +kernel) (by decide +kernel)
  refine ⟨hgroups, ?_, hsame _ _ hsigners (.refl _), by decide +kernel,
    hmore _ _ (.refl _) hminers⟩
  rw [hgroups] at hgroup
  obtain ⟨hminer, hsigner⟩ := Keygroup.authority.inj (Option.some.inj hgroup)
  have hminerKey : "m1".toList = minerKey := by rw [hminer, String.toList_ofList]
  have hsignerKey : "".toList = signerKey := by rw [hsigner, String.toList_ofList]
  rw [← hminerKey, ← hsignerKey] at hkeys
  exact hkeys

end KeyMaterial

end ClusterConfig
