/-
# The peers of a node are the other nodes

Which texts are addresses, and what the list of the peers of a node holds. Main statement: the peers
are found exactly when every other address is one, whatever the own address is. Then they are all
other nodes, each once, in the order of their indices; otherwise the other node with the lowest
index whose address is none is reported (`Cluster.peers_are_others`).

That an address holds one colon only is checked nowhere. It is cut at its first colon, and a second
one would have to stand in the numeral of the port.
-/
import Mathlib.Data.List.TakeWhile
import ClusterConfig.Arguments
import ClusterConfig.Proofs.FirstFailure
import ClusterConfig.Proofs.Peers
import ClusterConfig.Proofs.Text.Numeral

namespace ClusterConfig

open Text

/-! ## Addresses -/

/-- The texts that are addresses: one colon, with any text before it and the numeral of a port after
it. -/
def IsAddress (given : String) : Prop :=
  given.toList.count ':' = 1 ∧
    ∃ host port n, given.toList = host ++ ':' :: port ∧ DenotesNat port n ∧ n ≤ 65535

/-- What an address says: the host before its colon and the port after it. -/
structure DenotesAddress (given : String) (address : Address) : Prop where
  oneColon : given.toList.count ':' = 1
  parts : ∃ port, given.toList = address.host.toList ++ ':' :: port ∧
    DenotesNat port address.port.toNat

/-- Where a text is cut at a colon, it holds no other one exactly when neither part holds one. -/
theorem count_colon_eq_one_iff {host port : List Char} :
    (host ++ ':' :: port).count ':' = 1 ↔ ':' ∉ host ∧ ':' ∉ port := by
  rw [List.count_append, List.count_cons_self, ← List.count_eq_zero (l := host),
    ← List.count_eq_zero (l := port)]
  omega

/-- A text is an address when it says what one is. -/
theorem isAddress_iff_exists {given : String} :
    IsAddress given ↔ ∃ address, DenotesAddress given address := by
  constructor
  · rintro ⟨hone, host, port, n, hgiven, hdenotes, hle⟩
    have hport : n.toUInt16.toNat = n := UInt16.toNat_ofNat_of_lt (Nat.lt_succ_of_le hle)
    refine ⟨⟨String.ofList host, n.toUInt16⟩, hone, port, ?_, ?_⟩
    · rw [String.toList_ofList, hgiven]
    · rw [hport]
      exact hdenotes
  · rintro ⟨address, hone, port, hgiven, hdenotes⟩
    exact ⟨hone, _, port, _, hgiven, hdenotes, Nat.le_of_lt_succ address.port.toNat_lt⟩

/-- **An address is read as what it says.** -/
theorem Address.read?_eq_some_iff {given : String} {address : Address} :
    Address.read? given = some address ↔ DenotesAddress given address := by
  constructor
  · intro h
    by_cases hcolon : ':' ∈ given.toList
    · obtain ⟨host, port, hgiven, hhost⟩ := List.eq_append_cons_of_mem hcolon
      rw [Address.read?_of_toList hhost hgiven] at h
      obtain ⟨n, hn, rfl⟩ := Option.map_eq_some_iff.mp h
      have hread : readNat maxNat16 port = .ok n := by
        cases hread : readNat maxNat16 port with
        | error fault => rw [hread] at hn; contradiction
        | ok m => rw [hread] at hn; rw [Option.some.inj hn]
      obtain ⟨hdenotes, hle⟩ := readNat_eq_ok_iff.mp hread
      have hport : n.toUInt16.toNat = n := UInt16.toNat_ofNat_of_lt (Nat.lt_succ_of_le hle)
      constructor
      · -- The port was read, so it holds no second colon.
        rw [hgiven]
        exact count_colon_eq_one_iff.mpr ⟨hhost, hdenotes.not_mem (by decide) (by decide)⟩
      · refine ⟨port, ?_, ?_⟩
        · rw [String.toList_ofList, hgiven]
        · rw [hport]
          exact hdenotes
    · have hnone : given.toList.dropWhile (· ≠ ':') = [] := by
        rw [List.dropWhile_eq_nil_iff]
        intro c hc
        rw [decide_eq_true_eq]
        rintro rfl
        exact hcolon hc
      rw [Address.read?, hnone] at h
      contradiction
  · rintro ⟨hone, port, hgiven, hdenotes⟩
    rw [hgiven] at hone
    have hport : readNat maxNat16 port = .ok address.port.toNat :=
      readNat_eq_ok_iff.mpr ⟨hdenotes, Nat.le_of_lt_succ address.port.toNat_lt⟩
    rw [Address.read?_of_toList (count_colon_eq_one_iff.mp hone).1 hgiven, hport]
    simp [Except.toOption]

/-- The address of a node is accepted exactly when it is one. -/
theorem exists_ofNode_iff_isAddress (index : Nat) {given : String} :
    (∃ address, Address.ofNode index given = .ok address) ↔ IsAddress given := by
  rw [isAddress_iff_exists]
  exact exists_congr fun address => Address.ofNode_eq_ok_iff.trans Address.read?_eq_some_iff

/-- The check of an address fails exactly when it is none. -/
theorem check_address_eq_none_iff (index : Nat) {given : String} :
    Check.address index given = none ↔ IsAddress given := by
  rw [← exists_ofNode_iff_isAddress index]
  exact (failsAs_ofNode index given).exists_ok_iff.symm

/-! ## Peers -/

namespace Cluster

variable {cluster : Cluster} {self : Nat} {peers : List Peer}

/-- What the list of the peers of a node holds: every other node once, in the order of the indices,
with what its address says. -/
structure ListsOthers (cluster : Cluster) (node : Nat) (peers : List Peer) : Prop where
  ascending : (peers.map Peer.index).Pairwise (· < ·)
  once : ∀ index, (peers.map Peer.index).count index =
    if index < cluster.addresses.length ∧ index ≠ node then 1 else 0
  addresses : ∀ peer ∈ peers, ∃ given, cluster.addresses[peer.index]? = some given ∧
    DenotesAddress given peer.address
  length_eq : node < cluster.addresses.length → peers.length = cluster.addresses.length - 1

/-- The other node with the lowest index whose address is none. -/
structure FirstRejected (cluster : Cluster) (node index : Nat) (given : String) : Prop where
  given_eq : cluster.addresses[index]? = some given
  ne_node : index ≠ node
  rejected : ¬ IsAddress given
  accepted : ∀ earlier < index, earlier ≠ node →
    ∀ text, cluster.addresses[earlier]? = some text → IsAddress text

/-- The indices of the other nodes. -/
theorem map_snd_others (cluster : Cluster) (self : Nat) :
    (cluster.others self).map Prod.snd =
      (List.range cluster.addresses.length).filter (· ≠ self) := by
  rw [List.range_eq_range', ← List.zipIdx_map_snd 0 cluster.addresses, List.filter_map]
  rfl

/-- The other nodes stand in the order of their indices. -/
theorem pairwise_others (cluster : Cluster) (self : Nat) :
    (cluster.others self).Pairwise fun first second => first.2 < second.2 := by
  have hindices : ((cluster.others self).map Prod.snd).Pairwise (· < ·) := by
    rw [map_snd_others]
    exact List.pairwise_lt_range.filter _
  exact List.pairwise_map.mp hindices

/-- A peer is made of the index and the address of its node. -/
theorem step_eq_ok_iff {given : String} {index : Nat} {peer : Peer} :
    (do return (⟨index, ← Address.ofNode index given⟩ : Peer)) = .ok peer ↔
      peer.index = index ∧ Address.ofNode index given = .ok peer.address := by
  rw [bind_eq_ok_iff]
  constructor
  · rintro ⟨address, haddress, hpeer⟩
    obtain rfl : ⟨index, address⟩ = peer := Except.ok.inj hpeer
    exact ⟨rfl, haddress⟩
  · rintro ⟨rfl, haddress⟩
    exact ⟨peer.address, haddress, rfl⟩

/-- The indices of the peers are those of the other nodes. -/
theorem map_index_eq (h : cluster.peers self = .ok peers) :
    peers.map Peer.index = (List.range cluster.addresses.length).filter (· ≠ self) := by
  rw [← map_snd_others]
  exact map_eq_map_of_mapM_eq_ok h fun _ _ hstep => (step_eq_ok_iff.mp hstep).1

/-- All numbers below a bound but one of them. -/
theorem length_filter_ne_range {bound self : Nat} (h : self < bound) :
    ((List.range bound).filter (· ≠ self)).length = bound - 1 := by
  have herase : (List.range bound).erase self = (List.range bound).filter (· ≠ self) := by
    rw [List.nodup_range.erase_eq_filter]
    exact List.filter_congr fun index _ => by rw [bne, beq_eq_decide, decide_not]
  rw [← herase, List.length_erase_of_mem (List.mem_range.mpr h), List.length_range]

/-- The peers that are found are the other nodes. -/
theorem listsOthers_of_peers (h : cluster.peers self = .ok peers) :
    cluster.ListsOthers self peers := by
  have hindices := map_index_eq h
  constructor
  case ascending =>
    rw [hindices]
    exact List.pairwise_lt_range.filter _
  case once =>
    intro index
    have hnodup : ((List.range cluster.addresses.length).filter (· ≠ self)).Nodup :=
      List.nodup_range.filter _
    rw [hindices, hnodup.count]
    simp only [List.mem_filter, List.mem_range, decide_eq_true_eq]
  case addresses =>
    intro peer hpeer
    obtain ⟨⟨given, index⟩, hmem, hstep⟩ := exists_mem_of_mapM_eq_ok h peer hpeer
    obtain ⟨rfl, haddress⟩ := step_eq_ok_iff.mp hstep
    refine ⟨given, (mem_others.mp hmem).1, ?_⟩
    exact Address.read?_eq_some_iff.mp (Address.ofNode_eq_ok_iff.mp haddress)
  case length_eq =>
    intro hself
    rw [← length_filter_ne_range hself, ← hindices, List.length_map]

/-- The peers are found exactly when all other addresses are accepted. -/
theorem exists_peers_iff : (∃ peers, cluster.peers self = .ok peers) ↔
    ∀ index given, cluster.addresses[index]? = some given → index ≠ self → IsAddress given := by
  -- The peers are found when no check of another address fails.
  rw [(failsAs_others cluster self).exists_ok_iff, List.findSome?_eq_none_iff]
  constructor
  · intro h index given hgiven hne
    exact (check_address_eq_none_iff index).mp
      (h (given, index) (mem_others.mpr ⟨hgiven, hne⟩))
  · rintro h ⟨given, index⟩ hmem
    obtain ⟨hgiven, hne⟩ := mem_others.mp hmem
    exact (check_address_eq_none_iff index).mpr (h index given hgiven hne)

/-- An address that is none fails with its index and as it was given. -/
theorem check_address_eq_some_iff {index : Nat} {given : String} {failure : Failure} :
    Check.address index given = some failure ↔
      ¬ IsAddress given ∧ failure = .malformedAddress index given := by
  rw [← check_address_eq_none_iff index, Check.address]
  split
  case isTrue h => simp [eq_comm]
  case isFalse h => simp

/-- **The failure of the peers is that of the first other address that is none.** -/
theorem peers_eq_error_iff {failure : Failure} : cluster.peers self = .error failure ↔
    ∃ index given, cluster.FirstRejected self index given ∧
      failure = .malformedAddress index given := by
  rw [failsAs_others cluster self failure, List.findSome?_eq_some_iff]
  have hascending := pairwise_others cluster self
  constructor
  · rintro ⟨before, ⟨given, index⟩, after, hothers, hcheck, hbefore⟩
    obtain ⟨hrejected, hfailure⟩ := check_address_eq_some_iff.mp hcheck
    have hmem : (given, index) ∈ cluster.others self := by
      rw [hothers]
      exact List.mem_append_right _ List.mem_cons_self
    obtain ⟨hgiven, hne⟩ := mem_others.mp hmem
    rw [hothers, List.pairwise_append, List.pairwise_cons] at hascending
    refine ⟨index, given, ⟨hgiven, hne, hrejected, ?_⟩, hfailure⟩
    intro earlier hlt hne text htext
    -- A node with a lower index cannot stand behind this one.
    have hearlier : (text, earlier) ∈ cluster.others self := mem_others.mpr ⟨htext, hne⟩
    rw [hothers, List.mem_append, List.mem_cons] at hearlier
    rcases hearlier with hearlier | hearlier | hearlier
    · exact (check_address_eq_none_iff earlier).mp (hbefore _ hearlier)
    · obtain ⟨-, rfl⟩ := Prod.mk.inj hearlier
      exact absurd hlt (Nat.lt_irrefl earlier)
    · exact absurd hlt (Nat.lt_asymm (hascending.2.1.1 _ hearlier))
  · rintro ⟨index, given, hfirst, rfl⟩
    obtain ⟨before, after, hothers⟩ :=
      List.append_of_mem (mem_others.mpr ⟨hfirst.given_eq, hfirst.ne_node⟩)
    rw [hothers, List.pairwise_append] at hascending
    refine ⟨before, (given, index), after, hothers,
      check_address_eq_some_iff.mpr ⟨hfirst.rejected, rfl⟩, ?_⟩
    rintro ⟨text, earlier⟩ hmem
    have hearlier : (text, earlier) ∈ cluster.others self := by
      rw [hothers]
      exact List.mem_append_left _ hmem
    obtain ⟨htext, hne⟩ := mem_others.mp hearlier
    have hlt : earlier < index := hascending.2.2 _ hmem _ List.mem_cons_self
    exact (check_address_eq_none_iff earlier).mpr (hfirst.accepted earlier hlt hne text htext)

/-- **The peers of a node are the other nodes.** An address is accepted exactly when it holds one
colon, with a port after it. The peers are found exactly when all other addresses are accepted; then
they are all other nodes, in the order of their indices, and as many as a node of the cluster has
peers. Otherwise the first other address that is not accepted is reported as it was given. -/
theorem peers_are_others (cluster : Cluster) (self : Nat) :
    (∀ index given, (∃ address, Address.ofNode index given = .ok address) ↔ IsAddress given) ∧
    ((∃ peers, cluster.peers self = .ok peers) ↔
      ∀ index given, cluster.addresses[index]? = some given → index ≠ self → IsAddress given) ∧
    (∀ peers, cluster.peers self = .ok peers → cluster.ListsOthers self peers) ∧
    (∀ arguments site peers, Arguments.resolve arguments = .ok (cluster, site) →
      self < cluster.size → cluster.peers self = .ok peers → peers.length = cluster.maxPeer) ∧
    ∀ failure, cluster.peers self = .error failure ↔
      ∃ index given, cluster.FirstRejected self index given ∧
        failure = .malformedAddress index given := by
  refine ⟨fun index _ => exists_ofNode_iff_isAddress index, exists_peers_iff,
    fun _ => listsOthers_of_peers, ?_, fun _ => peers_eq_error_iff⟩
  intro arguments site peers hresolve hself hpeers
  obtain ⟨hlength, -⟩ := Arguments.resolve_bounds hresolve
  rw [(listsOthers_of_peers hpeers).length_eq (hlength ▸ hself), hlength]
  rfl

/-- Three nodes. The second one has no port, and the third one has no host and a port with a sign
and zeros in front. -/
def threeNodes : Cluster := ⟨3, ["a:1", "b", ":+0002"], 6, 10⟩

/-- Arguments that are resolved to the three nodes. -/
def threeNodesArguments : Arguments where
  basePath := ⟨"c"⟩
  nodeIndex := "1"
  clusterSize := "3"
  addresses := "a:1,b,:+0002"
  firstTiming := "6"
  secondTiming := "10"

/-- The second of the three nodes has the two others as peers, though its own address is none. The
third one is told of the second, as the first one has an address. -/
theorem peers_threeNodes :
    threeNodes.peers 1 = .ok [⟨0, "a", 1⟩, ⟨2, "", 2⟩] ∧
    threeNodes.ListsOthers 1 [⟨0, "a", 1⟩, ⟨2, "", 2⟩] ∧
    [⟨0, "a", 1⟩, (⟨2, "", 2⟩ : Peer)].length = threeNodes.maxPeer ∧
    threeNodes.peers 2 = .error (.malformedAddress 1 "b") ∧
    threeNodes.FirstRejected 2 1 "b" := by
  have hresolve : threeNodesArguments.resolve = .ok (threeNodes, .ofIndex ⟨"c"⟩ 1) := rfl
  have hpeers : threeNodes.peers 1 = .ok [⟨0, "a", 1⟩, ⟨2, "", 2⟩] := rfl
  have hfails : threeNodes.peers 2 = .error (.malformedAddress 1 "b") := rfl
  obtain ⟨-, -, hothers, hlength, -⟩ := peers_are_others threeNodes 1
  obtain ⟨-, -, -, -, herror⟩ := peers_are_others threeNodes 2
  refine ⟨hpeers, hothers _ hpeers, hlength _ _ _ hresolve (by decide) hpeers, hfails, ?_⟩
  obtain ⟨index, given, hfirst, hfailure⟩ := (herror _).mp hfails
  obtain ⟨rfl, rfl⟩ := Failure.malformedAddress.inj hfailure
  exact hfirst

end Cluster

end ClusterConfig
