/-
# Steps without a check of their own

A few steps of a run are taken without a check: one node is subtracted from the cluster, the index
of the node is multiplied in words of 64 bits, and lines are looked up in the keypairs. Each of them
relies on checks that were made elsewhere. Main statement: once arguments have been resolved, whose
addresses have fewer than 2^62 characters, none of these steps goes wrong, whatever the files hold;
and an index that is reported as out of range is the one that was given
(`generate_without_crash`).

Here the steps are taken as they are, so that they can go wrong: a difference below zero, a word of
more than 64 bits or a missing element is a crash, which no run reports. The bound on the addresses
bounds the cluster, which has one node more than they have commas.
-/
import ClusterConfig.Proofs.Agreement
import ClusterConfig.Proofs.Arguments
import ClusterConfig.Proofs.PeerList

namespace ClusterConfig

open Text

/-! ## Steps that can go wrong -/

/-- How a step goes wrong that is taken without a check. -/
inductive Crash where
  | underflow
  | overflow
  | outOfBounds
  deriving DecidableEq, Repr

namespace Crash

/-- A difference, which must not be below zero. -/
def difference (m n : Nat) : Except Crash Nat := if n ≤ m then .ok (m - n) else .error underflow

/-- A word of 64 bits. -/
def word (n : Nat) : Except Crash Nat :=
  if n < 18446744073709551616 then .ok n else .error overflow

/-- The element of a list at an index. -/
def element {α : Type} (l : List α) (index : Nat) : Except Crash α :=
  match l[index]? with
  | some a => .ok a
  | none => .error outOfBounds

variable {α : Type} {l : List α} {m n index : Nat}

/-- A number that is not greater can be subtracted. -/
theorem difference_of_le (h : n ≤ m) : difference m n = .ok (m - n) := if_pos h

/-- A number below the limit is a word. -/
theorem word_of_lt (h : n < 18446744073709551616) : word n = .ok n := if_pos h

/-- An index below the length has an element. -/
theorem element_of_lt (h : index < l.length) : element l index = .ok l[index] := by
  rw [element, List.getElem?_eq_getElem h]

end Crash

/-- A step that has a result is followed by the next one. -/
theorem ok_bind {α β : Type} (a : α) (next : α → Except Crash β) :
    (Except.ok a >>= next) = next a := rfl

open Crash

/-! ## The steps of a run -/

/-- The greatest number of peers, by the difference. -/
def Cluster.maxPeerUnchecked (cluster : Cluster) : Except Crash Nat := difference cluster.size 1

/-- The secret line of a node. Both line numbers are checked before the line is looked up. -/
def ownSecretUnchecked (path : Path) (lines : List (List Char)) (index : Nat) :
    Except Crash (Except Failure (List Char)) := do
  let first ← word (index * 3)
  let second ← word (first + 1)
  if lines.length ≤ first then return .error (.missingLine path first)
  else if lines.length ≤ second then return .error (.missingLine path second)
  else return .ok (← element lines first)

/-- The complete chunks of three elements. -/
def chunks {α : Type} (l : List α) : List (List α) :=
  (List.range (l.length / 3)).map fun k => (l.drop (3 * k)).take 3

/-- A signer key paired with the second and the third line of a chunk. -/
def proofGroupUnchecked (signer : List Char) (chunk : List (List Char)) :
    Except Crash Keygroup := do
  return .proof (String.ofList (← element chunk 1)) (String.ofList (← element chunk 2))
    (KeyMaterial.signerKey signer)

/-- The keygroups of the cluster, with the lines looked up in chunks. -/
def KeyMaterial.keygroupsUnchecked : KeyMaterial → Except Crash (List Keygroup)
  | authority _ _ signers miners =>
    .ok (List.zipWith authorityGroup (keyLines signers.toList) (keyLines miners.toList))
  | keypair _ _ signers keypairs =>
    ((keyLines signers.toList).zip (chunks (keyLines keypairs.toList))).mapM fun (signer, chunk) =>
      proofGroupUnchecked signer chunk

/-- The own line is found or reported as missing, and neither its number nor the line goes wrong. -/
theorem ownSecretUnchecked_eq {path : Path} {lines : List (List Char)} {index : Nat}
    (hword : index * 3 + 1 < 18446744073709551616) :
    ownSecretUnchecked path lines index = .ok (ownSecret path lines index) := by
  have hcomm : 3 * index = index * 3 := Nat.mul_comm 3 index
  have hfirst : word (index * 3) = .ok (index * 3) := word_of_lt (by omega)
  simp only [ownSecretUnchecked, hfirst, word_of_lt hword, ok_bind, ownSecret, hcomm]
  by_cases hnone : lines.length ≤ index * 3
  · rw [if_pos hnone, List.getElem?_eq_none hnone]
    rfl
  · have hlt : index * 3 < lines.length := Nat.lt_of_not_le hnone
    rw [if_neg hnone, List.getElem?_eq_getElem hlt]
    by_cases hone : lines.length ≤ index * 3 + 1
    · rw [if_pos hone, List.getElem?_eq_none hone]
      rfl
    · have hlt' : index * 3 + 1 < lines.length := Nat.lt_of_not_le hone
      rw [if_neg hone, List.getElem?_eq_getElem hlt', element_of_lt hlt]
      rfl

/-- The first three elements are the first chunk. -/
theorem chunks_cons {α : Type} (a b c : α) (rest : List α) :
    chunks (a :: b :: c :: rest) = [a, b, c] :: chunks rest := by
  have hlength : (a :: b :: c :: rest).length / 3 = rest.length / 3 + 1 := by
    simp only [List.length_cons]
    omega
  rw [chunks, hlength, List.range_succ_eq_map, List.map_cons, List.map_map]
  rfl

/-- The chunks of lines are the records. -/
theorem chunks_eq (lines : List (List Char)) :
    chunks lines = (records lines).map fun record =>
      [record.secret, record.key, record.generator] := by
  fun_induction records lines with
  | case1 secret key generator rest ih => rw [chunks_cons, ih, List.map_cons]
  | case2 lines hshort =>
    rw [chunks, Nat.div_eq_of_lt (length_lt_three hshort)]
    rfl

/-- No line is looked up beyond the end of its chunk. -/
theorem KeyMaterial.keygroupsUnchecked_eq (keys : KeyMaterial) :
    keys.keygroupsUnchecked = .ok keys.keygroups := by
  cases keys with
  | authority minerSecret signerSecret signers miners => rfl
  | keypair proofSecret signerSecret signers keypairs =>
    rw [keygroupsUnchecked, keygroups, chunks_eq, mapM_eq_ok_iff, List.zip_map_right, List.map_map,
      ← List.map_uncurry_zip_eq_zipWith, List.map_map]
    exact List.map_congr_left fun _ _ => rfl

/-! ## Documents of a cluster -/

namespace Document

variable {files : FileReader} {layout : KeyLayout} {cluster : Cluster} {site : Site}
  {options : Options}

/-- A document of one of the nodes fails for its files and addresses, but not for the index. -/
theorem assemble_ne_indexOutOfRange (hindex : site.index < cluster.addresses.length) (index : Int)
    (size : Nat) :
    (assemble files layout cluster site options).result ≠ .error (.indexOutOfRange index size) := by
  intro h
  simp only [assemble, List.getElem?_eq_getElem hindex, Logged.result_bind_eq_error_iff] at h
  rcases h with h | ⟨keys, -, h | ⟨timeServers, -, h | ⟨address, -, h | ⟨peers, -, h |
    ⟨_, -, h⟩⟩⟩⟩⟩
  · rcases KeyMaterial.unreadable_or_missingLine_of_load h with ⟨_, _, h⟩ | ⟨_, _, h⟩
    · contradiction
    · contradiction
  · obtain ⟨fault, h⟩ := exists_unreadable_of_readOptionalFile h
    contradiction
  · have hcheck := (failsAs_ofNode site.index cluster.addresses[site.index] _).mp h
    obtain ⟨-, h⟩ := Cluster.check_address_eq_some_iff.mp hcheck
    contradiction
  · obtain ⟨_, _, -, h⟩ := Cluster.peers_eq_error_iff.mp h
    contradiction
  · contradiction
  · contradiction

/-- A document starts with the index of its node, and it tells the size of the cluster less one. -/
theorem exists_settings_of_assemble {document : Document}
    (h : (assemble files layout cluster site options).result = .ok document) :
    ∃ (port : UInt16) (more : List Field), document.settings =
      [⟨"id_card", .number site.index⟩, ⟨"port", .number port.toNat⟩,
        ⟨"max_peer", .number cluster.maxPeer⟩] ++ more := by
  obtain ⟨own, keys, timeServers, address, peers, -, -, -, -, -, rfl⟩ := assemble_eq_ok_iff.mp h
  exact ⟨address.port, _, rfl⟩

/-- A document that starts with three numbers is written with a line for each of them in front. -/
theorem exists_render_eq {document : Document} {index port maxPeer : Nat} {more : List Field}
    (h : document.settings = [⟨"id_card", .number index⟩, ⟨"port", .number port⟩,
      ⟨"max_peer", .number maxPeer⟩] ++ more) :
    ∃ rest, document.render = "id_card = " ++ showNat index ++ "\nport = " ++ showNat port ++
      "\nmax_peer = " ++ showNat maxPeer ++ "\n" ++ rest := by
  obtain ⟨tables, hchars⟩ : ∃ tables,
    document.chars = document.settings.flatMap Field.chars ++ tables := ⟨_, rfl⟩
  refine ⟨String.ofList (more.flatMap Field.chars ++ tables), ?_⟩
  apply String.toList_inj.mp
  rw [render, hchars, h]
  simp [Field.chars, Value.chars, showNat]

end Document

/-! ## Runs -/

/-- What holds of a cluster and of one of its nodes when no step that is taken without a check goes
wrong for this node, whatever its files hold. -/
structure RunsWithoutCrash (cluster : Cluster) (site : Site) : Prop where
  maxPeer : cluster.maxPeerUnchecked = .ok cluster.maxPeer
  index_lt : site.index < cluster.addresses.length
  firstLine : site.index * 3 < 18446744073709551616
  secondLine : site.index * 3 + 1 < 18446744073709551616
  ownSecret : ∀ path lines,
    ownSecretUnchecked path lines site.index = .ok (ownSecret path lines site.index)
  keygroups : ∀ keys : KeyMaterial, keys.keygroupsUnchecked = .ok keys.keygroups
  indexFound : ∀ files layout options index size,
    (Document.assemble files layout cluster site options).result ≠
      .error (.indexOutOfRange index size)
  /-- The two numbers that are written are words, so nothing of them is cut off. -/
  index_word : site.index.toUInt64.toNat = site.index
  maxPeer_word : (cluster.size - 1).toUInt64.toNat = cluster.size - 1

/-- A cluster whose size is within the bound, and one of its nodes, run without a crash. -/
theorem runsWithoutCrash_of_size_le {cluster : Cluster} {site : Site}
    (hlength : cluster.addresses.length = cluster.size) (hindex : site.index < cluster.size)
    (hsize : cluster.size ≤ 4611686018427387904) : RunsWithoutCrash cluster site where
  maxPeer := difference_of_le (by omega)
  index_lt := hlength ▸ hindex
  firstLine := by omega
  secondLine := by omega
  ownSecret _ _ := ownSecretUnchecked_eq (by omega)
  keygroups := KeyMaterial.keygroupsUnchecked_eq
  indexFound _ _ _ := Document.assemble_ne_indexOutOfRange (hlength ▸ hindex)
  index_word := UInt64.toNat_ofNat_of_lt (show _ < 18446744073709551616 by omega)
  maxPeer_word := UInt64.toNat_ofNat_of_lt (show _ < 18446744073709551616 by omega)

namespace Job

variable {job : Job} {tree : FileTree}

/-- A job whose arguments are resolved reports no index as out of range. -/
theorem generate_ne_indexOutOfRange {cluster : Cluster} {site : Site}
    (hresolve : job.arguments.resolve = .ok (cluster, site)) (index : Int) (size : Nat) :
    (job.generate tree).1.result ≠ .error (.indexOutOfRange index size) := by
  intro h
  obtain ⟨hlength, hindex⟩ := Arguments.resolve_bounds hresolve
  rw [generate_report, Logged.result_bind_eq_error_iff] at h
  rcases h with hplan | ⟨plan, -, hconclude⟩
  · simp only [plan, hresolve, Logged.result_bind_eq_error_iff] at hplan
    rcases hplan with hplan | ⟨_, hresolved, hplan | ⟨_, -, hplan | ⟨_, -, hplan⟩⟩⟩
    · contradiction
    · contradiction
    · obtain rfl := Except.ok.inj hresolved
      exact Document.assemble_ne_indexOutOfRange (hlength ▸ hindex) index size hplan
    · contradiction
  · cases htarget : tree.target plan.path with
    | error fault =>
      rw [htarget] at hconclude
      cases hconclude
    | ok location =>
      rw [htarget] at hconclude
      cases hconclude

/-- **No run crashes once its arguments are resolved**, when the addresses have fewer than 2^62
characters: the steps without a check give what the run has, whatever the files hold, and the text
that is written starts with the index of the node and tells the number of its peers as they are. An
index that a run reports as out of range was found so when the arguments were resolved, and it is
the one that was read there. -/
theorem generate_without_crash (job : Job) (tree : FileTree) :
    (∀ cluster site, job.arguments.resolve = .ok (cluster, site) →
      job.arguments.addresses.toList.length < 4611686018427387904 →
      RunsWithoutCrash cluster site ∧
      ∀ path, (job.generate tree).1.result = .ok path →
        ∃ (document : Document) (port : UInt16) (more : List Field),
          (job.generate tree).2.readText path = .ok document.render ∧
          document.settings =
            [⟨"id_card", .number site.index⟩, ⟨"port", .number port.toNat⟩,
              ⟨"max_peer", .number (cluster.size - 1)⟩] ++ more ∧
          ∃ rest, document.render =
            "id_card = " ++ showNat site.index ++ "\nport = " ++ showNat port.toNat ++
              "\nmax_peer = " ++ showNat (cluster.size - 1) ++ "\n" ++ rest) ∧
    ∀ index size, (job.generate tree).1.result = .error (.indexOutOfRange index size) →
      job.arguments.resolve = .error (.indexOutOfRange index size) ∧
      Arguments.readNumeral readInt64 .nodeIndex job.arguments.nodeIndex = .ok index := by
  constructor
  · intro cluster site hresolve haddresses
    obtain ⟨hlength, hindex⟩ := Arguments.resolve_bounds hresolve
    have hsize := Arguments.size_le_of_resolve hresolve
    refine ⟨runsWithoutCrash_of_size_le hlength hindex (by omega), ?_⟩
    intro path hpath
    obtain ⟨-, document, hdocument, hread⟩ := exists_document_of_generate hresolve hpath
    obtain ⟨port, more, hsettings⟩ := Document.exists_settings_of_assemble hdocument
    exact ⟨document, port, more, hread, hsettings, Document.exists_render_eq hsettings⟩
  · intro index size h
    cases hresolve : job.arguments.resolve with
    | ok resolved => exact absurd h (generate_ne_indexOutOfRange hresolve index size)
    | error failure =>
      have hfailure : (job.generate tree).1.result = .error failure := by
        rw [generate_report, plan, hresolve]
        rfl
      obtain rfl : failure = .indexOutOfRange index size :=
        Except.error.inj (hfailure.symm.trans h)
      refine ⟨rfl, ?_⟩
      cases Arguments.firstFault_of_resolve hresolve with
      | indexOutOfRange hgive => exact Arguments.readNumeral_int64_eq_ok_iff.mpr hgive.nodeIndex

/-- The job of the second of two nodes in the keypair layout. -/
def secondJob : Job := ⟨Document.pairArguments.forNode "+1", .keypair, {}⟩

/-- The job of a node below the first one. -/
def negativeJob : Job := ⟨Document.pairArguments.forNode " -1", .keypair, {}⟩

/-- The second node runs without a crash and is told its index, and a negative index is reported as
it was given. -/
theorem generate_secondJob :
    secondJob.arguments.resolve = .ok (Document.pairCluster, .ofIndex ⟨"c"⟩ 1) ∧
    secondJob.arguments.addresses.toList.length < 4611686018427387904 ∧
    RunsWithoutCrash Document.pairCluster (.ofIndex ⟨"c"⟩ 1) ∧
    (secondJob.generate Document.pairTree).1.result = .ok ⟨"c/node1/config"⟩ ∧
    (∃ (document : Document) (port : UInt16) (more : List Field),
      (secondJob.generate Document.pairTree).2.readText ⟨"c/node1/config"⟩ =
        .ok document.render ∧
      document.settings = [⟨"id_card", .number 1⟩, ⟨"port", .number port.toNat⟩,
        ⟨"max_peer", .number 1⟩] ++ more ∧
      ∃ rest, document.render =
        "id_card = 1\nport = " ++ showNat port.toNat ++ "\nmax_peer = 1\n" ++ rest) ∧
    (negativeJob.generate Document.pairTree).1.result = .error (.indexOutOfRange (-1) 2) ∧
    Arguments.readNumeral readInt64 .nodeIndex negativeJob.arguments.nodeIndex = .ok (-1) := by
  have hresolve : secondJob.arguments.resolve =
      .ok (Document.pairCluster, .ofIndex ⟨"c"⟩ 1) := rfl
  have haddresses : secondJob.arguments.addresses.toList.length < 4611686018427387904 := by decide
  have hpath : (secondJob.generate Document.pairTree).1.result = .ok ⟨"c/node1/config"⟩ := by
    decide +kernel
  have hfailure : (negativeJob.generate Document.pairTree).1.result =
      .error (.indexOutOfRange (-1) 2) := rfl
  obtain ⟨hruns, hwritten⟩ :=
    (generate_without_crash secondJob Document.pairTree).1 _ _ hresolve haddresses
  obtain ⟨document, port, more, hread, hsettings, rest, hrender⟩ := hwritten _ hpath
  have hindex : "id_card = 1\nport = " = "id_card = " ++ showNat 1 ++ "\nport = " := by decide
  have hpeers : "\nmax_peer = 1\n" = "\nmax_peer = " ++ showNat 1 ++ "\n" := by decide
  have htext : document.render =
      "id_card = 1\nport = " ++ showNat port.toNat ++ "\nmax_peer = 1\n" ++ rest := by
    rw [hrender, hindex, hpeers]
    simp only [String.append_assoc]
    rfl
  exact ⟨hresolve, haddresses, hruns, hpath, ⟨document, port, more, hread, hsettings, rest, htext⟩,
    hfailure, ((generate_without_crash negativeJob Document.pairTree).2 _ _ hfailure).2⟩

end Job

end ClusterConfig
