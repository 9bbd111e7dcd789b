/-
# The peers of a node

The addresses of a cluster are read on two separate ways: the address of the node itself, and those
of its peers. Main statements: when a node has its address and its peers, every address of the
cluster is read (`exists_readsAs`), and then the peers of every node are all other nodes, in the
order of their indices (`peers_of_readsAs`).

So whether the peers of a node are found does not depend on the node, and two nodes see each other
and all third nodes in the same way.
-/
import ClusterConfig.Peer

namespace ClusterConfig

open Text

/-! ## Addresses -/

/-- An address as it is given. -/
def Address.chars (address : Address) : List Char :=
  address.host.toList ++ ':' :: decimal address.port.toNat

/-- An address as text. -/
def Address.text (address : Address) : String := String.ofList address.chars

/-- A text with a colon is read as the text before its first colon and the port after it. -/
theorem Address.read?_of_toList {given : String} {host port : List Char} (hhost : ':' ∉ host)
    (hgiven : given.toList = host ++ ':' :: port) :
    Address.read? given =
      (readNat maxNat16 port).toOption.map fun n => ⟨String.ofList host, n.toUInt16⟩ := by
  have hbefore : ∀ c ∈ host, decide (c ≠ ':') = true := by
    intro c hc
    rw [decide_eq_true_eq]
    rintro rfl
    exact hhost hc
  have htake : given.toList.takeWhile (· ≠ ':') = host := by
    rw [hgiven, List.takeWhile_append_of_pos hbefore]
    simp
  have hdrop : given.toList.dropWhile (· ≠ ':') = ':' :: port := by
    rw [hgiven, List.dropWhile_append_of_pos hbefore]
    simp
  rw [Address.read?, htake, hdrop]
  dsimp only
  cases readNat maxNat16 port with
  | error fault => rfl
  | ok n => rfl

/-- An address whose host holds no colon is read back. -/
theorem Address.read?_text {address : Address} (h : ':' ∉ address.host.toList) :
    Address.read? address.text = some address := by
  have hchars : address.text.toList =
      address.host.toList ++ ':' :: decimal address.port.toNat := by
    rw [Address.text, String.toList_ofList, Address.chars]
  have hport : address.port.toNat ≤ maxNat16 := Nat.le_of_lt_succ address.port.toNat_lt
  rw [Address.read?_of_toList h hchars, readNat_decimal hport]
  simp [Except.toOption]

/-- The address of a node is read when its text is. -/
theorem Address.ofNode_eq_ok_iff {index : Nat} {given : String} {address : Address} :
    Address.ofNode index given = .ok address ↔ Address.read? given = some address := by
  rw [Address.ofNode]
  cases Address.read? given with
  | none => simp
  | some found => simp

/-! ## Reading every address -/

/-- The addresses of a cluster are read as the given ones. -/
def Cluster.ReadsAs (cluster : Cluster) (addresses : List Address) : Prop :=
  cluster.addresses.map Address.read? = addresses.map some

/-- A function whose value at every member is a wrapped result has a list of results. -/
theorem exists_map_eq_map {α β γ : Type} {f : α → γ} {wrap : β → γ} {l : List α}
    (h : ∀ a ∈ l, ∃ b, f a = wrap b) : ∃ r : List β, l.map f = r.map wrap := by
  induction l with
  | nil => exact ⟨[], rfl⟩
  | cons a l ih =>
    obtain ⟨b, hb⟩ := h a List.mem_cons_self
    obtain ⟨r, hr⟩ := ih fun c hc => h c (List.mem_cons_of_mem a hc)
    exact ⟨b :: r, by rw [List.map_cons, List.map_cons, hb, hr]⟩

/-- A sequence gives a list of results when each of its members gives one of them. -/
theorem mapM_eq_ok_iff {ε α β : Type} {f : α → Except ε β} {l : List α} {r : List β} :
    l.mapM f = .ok r ↔ l.map f = r.map .ok := by
  induction l generalizing r with
  | nil =>
    constructor
    · intro h
      obtain rfl : [] = r := Except.ok.inj h
      rfl
    · intro h
      obtain rfl : r = [] := List.map_eq_nil_iff.mp h.symm
      rfl
  | cons a l ih =>
    rw [List.mapM_cons, bind_eq_ok_iff, List.map_cons]
    constructor
    · rintro ⟨b, hb, h⟩
      obtain ⟨bs, hbs, heq⟩ := bind_eq_ok_iff.mp h
      obtain rfl : b :: bs = r := Except.ok.inj heq
      rw [List.map_cons, hb, ih.mp hbs]
    · intro h
      obtain ⟨b, bs, rfl, hb, hbs⟩ := List.map_eq_cons_iff.mp h.symm
      exact ⟨b, hb.symm, bind_eq_ok_iff.mpr ⟨bs, ih.mpr hbs.symm, rfl⟩⟩

/-- Every result of a sequence is that of one of its members. -/
theorem exists_mem_of_mapM_eq_ok {ε α β : Type} {f : α → Except ε β} {l : List α} {r : List β}
    (h : l.mapM f = .ok r) : ∀ b ∈ r, ∃ a ∈ l, f a = .ok b := by
  intro b hb
  have hmem : Except.ok b ∈ l.map f := mapM_eq_ok_iff.mp h ▸ List.mem_map_of_mem hb
  exact List.mem_map.mp hmem

/-- What every step keeps of a member, the results of a sequence keep of its members. -/
theorem map_eq_map_of_mapM_eq_ok {ε α β γ : Type} {f : α → Except ε β} {before : α → γ}
    {after : β → γ} {l : List α} {r : List β} (h : l.mapM f = .ok r)
    (hstep : ∀ a b, f a = .ok b → after b = before a) : r.map after = l.map before := by
  have hmap := mapM_eq_ok_iff.mp h
  clear h
  induction l generalizing r with
  | nil =>
    obtain rfl : r = [] := List.map_eq_nil_iff.mp hmap.symm
    rfl
  | cons a l ih =>
    obtain ⟨b, bs, rfl, hb, hbs⟩ := List.map_eq_cons_iff.mp hmap.symm
    rw [List.map_cons, List.map_cons, hstep a b hb.symm, ih hbs.symm]

/-- A sequence succeeds when each of its members does. -/
theorem exists_mapM_eq_ok_iff {ε α β : Type} {f : α → Except ε β} {l : List α} :
    (∃ r, l.mapM f = .ok r) ↔ ∀ a ∈ l, ∃ b, f a = .ok b := by
  simp only [mapM_eq_ok_iff]
  constructor
  · rintro ⟨r, hr⟩ a ha
    have hmem : f a ∈ r.map .ok := hr ▸ List.mem_map_of_mem ha
    obtain ⟨b, -, hb⟩ := List.mem_map.mp hmem
    exact ⟨b, hb.symm⟩
  · exact exists_map_eq_map

/-- The nodes of a cluster other than one, with their addresses as they were given. -/
def Cluster.others (cluster : Cluster) (self : Nat) : List (String × Nat) :=
  cluster.addresses.zipIdx.filter fun (_, index) => index ≠ self

/-- The other nodes are those with another index. -/
theorem Cluster.mem_others {cluster : Cluster} {self index : Nat} {given : String} :
    (given, index) ∈ cluster.others self ↔
      cluster.addresses[index]? = some given ∧ index ≠ self := by
  rw [Cluster.others, List.mem_filter, List.mk_mem_zipIdx_iff_getElem?, decide_eq_true_eq]

/-- **A node that has its address and its peers has read every address of its cluster.** -/
theorem Cluster.exists_readsAs {cluster : Cluster} {self : Nat} {own : String} {address : Address}
    {peers : List Peer} (hown : cluster.addresses[self]? = some own)
    (haddress : Address.ofNode self own = .ok address) (hpeers : cluster.peers self = .ok peers) :
    ∃ addresses, cluster.ReadsAs addresses := by
  apply exists_map_eq_map
  intro given hgiven
  obtain ⟨index, hindex⟩ := List.mem_iff_getElem?.mp hgiven
  -- The address of the node itself is read on its own, all others among its peers.
  by_cases hself : index = self
  · subst hself
    obtain rfl := Option.some.inj (hindex.symm.trans hown)
    exact ⟨address, Address.ofNode_eq_ok_iff.mp haddress⟩
  · have hmem : (given, index) ∈ cluster.others self := Cluster.mem_others.mpr ⟨hindex, hself⟩
    obtain ⟨peer, hpeer⟩ := exists_mapM_eq_ok_iff.mp ⟨peers, hpeers⟩ (given, index) hmem
    obtain ⟨found, hfound, -⟩ := bind_eq_ok_iff.mp hpeer
    exact ⟨found, Address.ofNode_eq_ok_iff.mp hfound⟩

/-- The address of a node is among those that are read. -/
theorem Cluster.ReadsAs.exists_address {cluster : Cluster} {addresses : List Address}
    (h : cluster.ReadsAs addresses) {index : Nat} {own : String}
    (hown : cluster.addresses[index]? = some own) :
    ∃ address, addresses[index]? = some address ∧ Address.ofNode index own = .ok address := by
  have hread : (cluster.addresses.map Address.read?)[index]? = (addresses.map some)[index]? := by
    rw [h]
  rw [List.getElem?_map, List.getElem?_map, hown, Option.map_some] at hread
  cases haddress : addresses[index]? with
  | none => simp [haddress] at hread
  | some address =>
    rw [haddress, Option.map_some] at hread
    exact ⟨address, rfl, Address.ofNode_eq_ok_iff.mpr (Option.some.inj hread)⟩

/-! ## All other nodes -/

/-- Nodes as peers, with indices from a number on. -/
def peersFrom (start : Nat) (addresses : List Address) : List Peer :=
  (addresses.zipIdx start).map fun (address, index) => ⟨index, address⟩

/-- The nodes other than one, as peers. -/
def peersExcept (self : Nat) (addresses : List Address) : List Peer :=
  (peersFrom 0 addresses).filter (·.index ≠ self)

/-- The first node is in front of the others. -/
theorem peersFrom_cons (start : Nat) (address : Address) (addresses : List Address) :
    peersFrom start (address :: addresses) =
      ⟨start, address⟩ :: peersFrom (start + 1) addresses := rfl

/-- Indices start where they are said to. -/
theorem le_index_of_mem_peersFrom {start : Nat} {addresses : List Address} {peer : Peer}
    (h : peer ∈ peersFrom start addresses) : start ≤ peer.index := by
  induction addresses generalizing start with
  | nil => exact absurd h List.not_mem_nil
  | cons address addresses ih =>
    rw [peersFrom_cons] at h
    rcases List.mem_cons.mp h with rfl | h
    · exact Nat.le_refl start
    · exact Nat.le_of_succ_le (ih h)

/-- Exactly one node has an index. -/
theorem filter_index_peersFrom {start index : Nat} {addresses : List Address} {address : Address}
    (h : addresses[index]? = some address) :
    (peersFrom start addresses).filter (·.index = start + index) = [⟨start + index, address⟩] := by
  induction addresses generalizing start index with
  | nil => simp at h
  | cons first addresses ih =>
    rw [peersFrom_cons]
    cases index with
    | zero =>
      obtain rfl : first = address := by simpa using h
      -- All indices after the first one are greater.
      have hmore : (peersFrom (start + 1) addresses).filter (·.index = start + 0) = [] := by
        rw [List.filter_eq_nil_iff]
        intro peer hpeer
        have := le_index_of_mem_peersFrom hpeer
        simp only [decide_eq_true_eq]
        omega
      rw [List.filter_cons_of_pos (by simp), hmore]
      rfl
    | succ index =>
      have hrest : addresses[index]? = some address := by simpa using h
      rw [List.filter_cons_of_neg (by simp), show start + (index + 1) = start + 1 + index by omega]
      exact ih hrest

/-- Every other node is listed once, with its address. -/
theorem filter_index_peersExcept {self index : Nat} {addresses : List Address} {address : Address}
    (hne : index ≠ self) (h : addresses[index]? = some address) :
    (peersExcept self addresses).filter (·.index = index) = [⟨index, address⟩] := by
  have hone : (peersFrom 0 addresses).filter (·.index = 0 + index) = [⟨0 + index, address⟩] :=
    filter_index_peersFrom h
  rw [Nat.zero_add] at hone
  -- Leaving the node itself out takes nothing from the nodes with another index.
  rw [peersExcept, List.filter_filter, ← hone]
  apply List.filter_congr
  intro peer hpeer
  by_cases heq : peer.index = index
  · simp [heq, hne]
  · simp [heq]

/-- Peers have indices of the cluster. -/
theorem index_lt_of_mem_peersExcept {self : Nat} {addresses : List Address} {peer : Peer}
    (h : peer ∈ peersExcept self addresses) : peer.index < addresses.length := by
  obtain ⟨⟨address, index⟩, hmem, rfl⟩ := List.mem_map.mp (List.mem_filter.mp h).1
  exact List.snd_lt_of_mem_zipIdx hmem

/-- There is one peer less than there are nodes. -/
theorem length_peersExcept {self : Nat} {addresses : List Address} (h : self < addresses.length) :
    (peersExcept self addresses).length = addresses.length - 1 := by
  have hself : (peersFrom 0 addresses).countP (·.index = self) = 1 := by
    have hone : (peersFrom 0 addresses).filter (·.index = 0 + self) =
        [⟨0 + self, addresses[self]⟩] :=
      filter_index_peersFrom (List.getElem?_eq_getElem h)
    rw [Nat.zero_add] at hone
    rw [List.countP_eq_length_filter, hone]
    rfl
  have hothers : (peersExcept self addresses).length =
      (peersFrom 0 addresses).countP fun peer => ¬(decide (peer.index = self) = true) := by
    simp [peersExcept, List.countP_eq_length_filter]
  have hall : (peersFrom 0 addresses).length = addresses.length := by simp [peersFrom]
  have hsplit := (peersFrom 0 addresses).length_eq_countP_add_countP (·.index = self)
  omega

/-- Two nodes list the same third nodes. -/
theorem filter_ne_peersExcept_comm (first second : Nat) (addresses : List Address) :
    (peersExcept first addresses).filter (·.index ≠ second) =
      (peersExcept second addresses).filter (·.index ≠ first) := by
  rw [peersExcept, peersExcept, List.filter_filter, List.filter_filter]
  apply List.filter_congr
  intro peer hpeer
  exact Bool.and_comm _ _

/-- Reading the addresses of all nodes but one, with indices from a number on. -/
theorem mapM_zipIdx_eq_ok {given : List String} {addresses : List Address}
    (h : given.map Address.read? = addresses.map some) (self start : Nat) :
    (((given.zipIdx start).filter fun (_, index) => index ≠ self).mapM fun (given, index) => do
      return (⟨index, ← Address.ofNode index given⟩ : Peer)) =
    .ok ((peersFrom start addresses).filter (·.index ≠ self)) := by
  induction given generalizing addresses start with
  | nil =>
    obtain rfl : addresses = [] := by simpa using h.symm
    rfl
  | cons text given ih =>
    cases addresses with
    | nil => simp at h
    | cons address addresses =>
      rw [List.map_cons, List.map_cons] at h
      obtain ⟨hread, hmore⟩ := List.cons.inj h
      rw [List.zipIdx_cons, peersFrom_cons]
      by_cases hself : start = self
      · rw [List.filter_cons_of_neg (by simp [hself]), List.filter_cons_of_neg (by simp [hself])]
        exact ih hmore (start + 1)
      · rw [List.filter_cons_of_pos (by simp [hself]), List.filter_cons_of_pos (by simp [hself]),
          List.mapM_cons, bind_eq_ok_iff]
        refine ⟨⟨start, address⟩, ?_, ?_⟩
        · exact bind_eq_ok_iff.mpr ⟨address, Address.ofNode_eq_ok_iff.mpr hread, rfl⟩
        · exact bind_eq_ok_iff.mpr ⟨_, ih hmore (start + 1), rfl⟩

/-- **The peers of every node are all other nodes.** -/
theorem Cluster.peers_of_readsAs {cluster : Cluster} {addresses : List Address}
    (h : cluster.ReadsAs addresses) (self : Nat) :
    cluster.peers self = .ok (peersExcept self addresses) :=
  mapM_zipIdx_eq_ok h self 0

end ClusterConfig
