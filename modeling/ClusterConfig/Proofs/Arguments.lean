/-
# Which arguments are accepted

Main statement: the arguments of a run are resolved exactly when the four numerals among them are in
range, the index lies within the cluster and there is one address for each node; what they are
resolved to holds nothing but what was given; and arguments that are not resolved are reported with
the first check that they fail (`resolve_valid_or_firstFault`).

The checks are made one after the other, so what fails later presupposes what was read before. The
relation `FirstFault` says this check by check, without the reader.
-/
import ClusterConfig.Arguments
import ClusterConfig.Proofs.Text.Numeral

namespace ClusterConfig

open Text

namespace Arguments

/-! ## What is given -/

/-- A text gives an integer of 64 bits, with blanks around its numeral or without them. -/
def GivesInt64 (given : String) (i : Int) : Prop :=
  DenotesInt (trim given.toList) i ∧ -(negMinInt64 : Int) ≤ i ∧ i ≤ maxInt64

/-- A text gives a natural number of 64 bits, with blanks around its numeral or without them. -/
def GivesNat64 (given : String) (n : Nat) : Prop := DenotesNat (trim given.toList) n ∧ n ≤ maxNat64

/-- The numbers that the four numerals among the arguments give. -/
structure Give (arguments : Arguments) (index : Int) (size : Nat) (timing : Nat × Nat) : Prop where
  nodeIndex : GivesInt64 arguments.nodeIndex index
  clusterSize : GivesNat64 arguments.clusterSize size
  firstTiming : GivesNat64 arguments.firstTiming timing.1
  secondTiming : GivesNat64 arguments.secondTiming timing.2

/-- The number of addresses: one more than there are commas. -/
def addressCount (arguments : Arguments) : Nat := arguments.addresses.toList.count ',' + 1

/-- The arguments are those of a node of a cluster. -/
structure Valid (arguments : Arguments) (index : Int) (size : Nat) (timing : Nat × Nat) : Prop where
  give : arguments.Give index size timing
  size_pos : 1 ≤ size
  index_nonneg : 0 ≤ index
  index_lt : index < size
  addressCount_eq : arguments.addressCount = size

/-- The first check that arguments fail, with the failure and the wording that report it. A numeral
is reported as it was given, with the blanks around it. -/
inductive FirstFault (arguments : Arguments) : Failure → String → Prop
  | nodeIndex (fault : NumeralFault) (h : ∀ index, ¬ GivesInt64 arguments.nodeIndex index) :
    FirstFault arguments (.malformedNumeral .nodeIndex arguments.nodeIndex fault)
      (Failure.invalidArgument "nodeIndex" ("`" ++ arguments.nodeIndex ++ "`: " ++ fault.message))
  | clusterSize (fault : NumeralFault) {index : Int}
      (hindex : GivesInt64 arguments.nodeIndex index)
      (h : ∀ size, ¬ GivesNat64 arguments.clusterSize size) :
    FirstFault arguments (.malformedNumeral .clusterSize arguments.clusterSize fault)
      (Failure.invalidArgument "clusterSize"
        ("`" ++ arguments.clusterSize ++ "`: " ++ fault.message))
  | firstTiming (fault : NumeralFault) {index : Int} {size : Nat}
      (hindex : GivesInt64 arguments.nodeIndex index)
      (hsize : GivesNat64 arguments.clusterSize size)
      (h : ∀ first, ¬ GivesNat64 arguments.firstTiming first) :
    FirstFault arguments (.malformedNumeral .firstTiming arguments.firstTiming fault)
      (Failure.invalidArgument "param1" ("`" ++ arguments.firstTiming ++ "`: " ++ fault.message))
  | secondTiming (fault : NumeralFault) {index : Int} {size first : Nat}
      (hindex : GivesInt64 arguments.nodeIndex index)
      (hsize : GivesNat64 arguments.clusterSize size)
      (hfirst : GivesNat64 arguments.firstTiming first)
      (h : ∀ second, ¬ GivesNat64 arguments.secondTiming second) :
    FirstFault arguments (.malformedNumeral .secondTiming arguments.secondTiming fault)
      (Failure.invalidArgument "param2" ("`" ++ arguments.secondTiming ++ "`: " ++ fault.message))
  | emptyCluster {index : Int} {timing : Nat × Nat} (hgive : arguments.Give index 0 timing) :
    FirstFault arguments .emptyCluster
      (Failure.invalidArgument "clusterSize" "cluster must have at least one node")
  | indexOutOfRange {index : Int} {size : Nat} {timing : Nat × Nat}
      (hgive : arguments.Give index size timing) (hsize : 1 ≤ size)
      (h : index < 0 ∨ size ≤ index) :
    FirstFault arguments (.indexOutOfRange index size)
      ("node index " ++ showInt index ++ " is out of range for a cluster of " ++ showNat size ++
        " nodes")
  | addressCount {index : Int} {size : Nat} {timing : Nat × Nat}
      (hgive : arguments.Give index size timing) (hnonneg : 0 ≤ index) (hlt : index < size)
      (h : arguments.addressCount ≠ size) :
    FirstFault arguments (.addressCount size arguments.addressCount)
      (Failure.invalidArgument "peerAddressesCSV"
        ("expected " ++ showNat size ++ " addresses, got " ++ showNat arguments.addressCount))

/-- What arguments are resolved to, in terms of what was given. -/
structure ResolveTo (arguments : Arguments) (cluster : Cluster) (site : Site) : Prop where
  valid : arguments.Valid site.index cluster.size cluster.timing
  length_eq : cluster.addresses.length = cluster.size
  noComma : ∀ address ∈ cluster.addresses, ',' ∉ address.toList
  /-- Nothing is lost between the commas, neither blanks nor empty addresses. -/
  joined : [','].intercalate (cluster.addresses.map String.toList) = arguments.addresses.toList
  base_eq : site.base = arguments.basePath
  /-- The directory of the node has its index in its name, without a zero in front. -/
  directory : ∃ digits, site.directory = arguments.basePath.join (String.ofList ("node".toList ++
      digits)) ∧ IsDigits digits ∧ Nat.ofDigitChars 10 digits 0 = site.index ∧
      (digits.head? = some '0' → digits = ['0'])

/-! ## Numerals -/

/-- A numeral among the arguments is read without the blanks around it. -/
theorem readNumeral_eq_ok_iff {α : Type} {read : List Char → Except NumeralFault α}
    {argument : NumeralArgument} {given : String} {a : α} :
    readNumeral read argument given = .ok a ↔ read (trim given.toList) = .ok a :=
  mapError_eq_ok_iff

/-- The index of a node is read exactly when it is given. -/
theorem readNumeral_int64_eq_ok_iff {argument : NumeralArgument} {given : String} {i : Int} :
    readNumeral readInt64 argument given = .ok i ↔ GivesInt64 given i :=
  readNumeral_eq_ok_iff.trans readInt64_eq_ok_iff

/-- A natural number is read exactly when it is given. -/
theorem readNumeral_nat64_eq_ok_iff {argument : NumeralArgument} {given : String} {n : Nat} :
    readNumeral (readNat maxNat64) argument given = .ok n ↔ GivesNat64 given n :=
  readNumeral_eq_ok_iff.trans readNat_eq_ok_iff

/-- A numeral that is not read is reported as it was given, and then no number is read. -/
theorem not_ok_of_readNumeral_eq_error {α : Type} {read : List Char → Except NumeralFault α}
    {argument : NumeralArgument} {given : String} {failure : Failure}
    (h : readNumeral read argument given = .error failure) :
    (∃ fault, failure = .malformedNumeral argument given fault) ∧
      ∀ a, readNumeral read argument given ≠ .ok a := by
  constructor
  · obtain ⟨fault, -, hfault⟩ := mapError_eq_error_iff.mp h
    exact ⟨fault, hfault.symm⟩
  · intro a ha
    rw [h] at ha
    contradiction

/-! ## Addresses -/

/-- A text is cut into one part more than there are separators. -/
theorem length_splitOn {s : List Char} {separator : Char} :
    (s.splitOn separator).length = s.count separator + 1 := by
  induction s with
  | nil => rfl
  | cons c s ih =>
    rw [List.splitOn_cons_eq_if_modifyHead, List.count_cons]
    split
    · rw [List.length_cons, ih]
    · rw [List.length_modifyHead, ih, Nat.add_zero]

/-- No part holds the separator. -/
theorem not_mem_of_mem_splitOn {s part : List Char} {separator : Char}
    (h : part ∈ s.splitOn separator) : separator ∉ part := by
  induction s generalizing part with
  | nil =>
    obtain rfl := List.mem_singleton.mp h
    exact List.not_mem_nil
  | cons c s ih =>
    rw [List.splitOn_cons_eq_if_modifyHead] at h
    split at h
    case isTrue =>
      rcases List.mem_cons.mp h with rfl | h
      · exact List.not_mem_nil
      · exact ih h
    case isFalse hc =>
      -- The character goes to the first part, all other parts are as before.
      obtain ⟨first, more, hparts⟩ := List.exists_cons_of_ne_nil (List.splitOn_ne_nil separator s)
      rw [hparts, List.modifyHead_cons] at h
      rw [hparts] at ih
      rcases List.mem_cons.mp h with rfl | h
      · rw [List.mem_cons, not_or]
        exact ⟨fun heq => hc (by simp [heq]), ih List.mem_cons_self⟩
      · exact ih (List.mem_cons_of_mem first h)

/-- There are as many addresses as are counted. -/
theorem length_splitAddresses (arguments : Arguments) :
    (splitAddresses arguments.addresses).length = arguments.addressCount := by
  rw [splitAddresses, List.length_map, length_splitOn, addressCount]

/-- The addresses hold no comma. -/
theorem not_mem_of_mem_splitAddresses {given address : String}
    (h : address ∈ splitAddresses given) : ',' ∉ address.toList := by
  obtain ⟨part, hpart, rfl⟩ := List.mem_map.mp h
  rw [String.toList_ofList]
  exact not_mem_of_mem_splitOn hpart

/-- The addresses with commas in between are what was given. -/
theorem intercalate_splitAddresses (given : String) :
    [','].intercalate ((splitAddresses given).map String.toList) = given.toList := by
  have hparts : (splitAddresses given).map String.toList = given.toList.splitOn ',' := by
    simp [splitAddresses, Function.comp_def]
  rw [hparts, List.intercalate_splitOn]

/-! ## Resolving -/

/-- A cluster that arguments are resolved to has no more nodes than the addresses have
characters, and one more. -/
theorem size_le_of_resolve {arguments : Arguments} {cluster : Cluster} {site : Site}
    (h : arguments.resolve = .ok (cluster, site)) :
    cluster.size ≤ arguments.addresses.toList.length + 1 := by
  obtain ⟨_, -, -, -, -, -, haddresses, hlength, -⟩ := resolve_eq_ok_iff.mp h
  rw [← hlength, haddresses, length_splitAddresses, addressCount]
  exact Nat.succ_le_succ List.count_le_length

/-- Arguments are resolved exactly when they are valid. -/
theorem exists_resolve_iff_valid {arguments : Arguments} :
    (∃ resolved, arguments.resolve = .ok resolved) ↔
      ∃ index size timing, arguments.Valid index size timing := by
  constructor
  · rintro ⟨⟨cluster, site⟩, h⟩
    obtain ⟨index, hlt, hindex, hsize, hfirst, hsecond, haddresses, hlength, -⟩ :=
      resolve_eq_ok_iff.mp h
    rw [haddresses, length_splitAddresses] at hlength
    refine ⟨index, cluster.size, cluster.timing, ⟨?_, ?_, ?_, ?_⟩, ?_, ?_, ?_, hlength⟩
    · exact readNumeral_int64_eq_ok_iff.mp hindex
    · exact readNumeral_nat64_eq_ok_iff.mp hsize
    · exact readNumeral_nat64_eq_ok_iff.mp hfirst
    · exact readNumeral_nat64_eq_ok_iff.mp hsecond
    all_goals omega
  · rintro ⟨index, size, timing, hvalid⟩
    obtain ⟨n, rfl⟩ := Int.eq_ofNat_of_zero_le hvalid.index_nonneg
    have hlength : (splitAddresses arguments.addresses).length = size := by
      rw [length_splitAddresses, hvalid.addressCount_eq]
    refine ⟨(⟨size, splitAddresses arguments.addresses, timing⟩,
      .ofIndex arguments.basePath n), resolve_eq_ok_iff.mpr ?_⟩
    refine ⟨n, Int.ofNat_lt.mp hvalid.index_lt, ?_, ?_, ?_, ?_, rfl, hlength, rfl⟩
    · exact readNumeral_int64_eq_ok_iff.mpr hvalid.give.nodeIndex
    · exact readNumeral_nat64_eq_ok_iff.mpr hvalid.give.clusterSize
    · exact readNumeral_nat64_eq_ok_iff.mpr hvalid.give.firstTiming
    · exact readNumeral_nat64_eq_ok_iff.mpr hvalid.give.secondTiming

/-- What arguments are resolved to is what was given. -/
theorem resolveTo_of_resolve {arguments : Arguments} {cluster : Cluster} {site : Site}
    (h : arguments.resolve = .ok (cluster, site)) : arguments.ResolveTo cluster site := by
  obtain ⟨index, hlt, hindex, hsize, hfirst, hsecond, haddresses, hlength, rfl⟩ :=
    resolve_eq_ok_iff.mp h
  constructor
  case valid =>
    have hcount : arguments.addressCount = cluster.size := by
      rw [← hlength, haddresses, length_splitAddresses]
    refine ⟨⟨?_, ?_, ?_, ?_⟩, ?_, ?_, Int.ofNat_lt.mpr hlt, hcount⟩
    · exact readNumeral_int64_eq_ok_iff.mp hindex
    · exact readNumeral_nat64_eq_ok_iff.mp hsize
    · exact readNumeral_nat64_eq_ok_iff.mp hfirst
    · exact readNumeral_nat64_eq_ok_iff.mp hsecond
    · omega
    · exact Int.natCast_nonneg index
  case length_eq => exact hlength
  case noComma =>
    rw [haddresses]
    exact fun address => not_mem_of_mem_splitAddresses
  case joined =>
    rw [haddresses]
    exact intercalate_splitAddresses arguments.addresses
  case base_eq => rfl
  case directory =>
    refine ⟨decimal index, ?_, isDigits_decimal index, ofDigitChars_decimal index, ?_⟩
    · rw [String.ofList_append, String.ofList_toList]
      rfl
    · intro hzero
      obtain rfl := eq_zero_of_head?_decimal hzero
      exact Nat.toDigits_zero 10

/-- A node that is not located is out of range, or its cluster is empty or lacks addresses. -/
theorem firstFault_of_locate {arguments : Arguments} {index : Int} {size : Nat}
    {timing : Nat × Nat} {failure : Failure} (hgive : arguments.Give index size timing)
    (h : arguments.locate index size timing = .error failure) :
    arguments.FirstFault failure failure.message := by
  simp only [locate] at h
  split at h
  case isTrue hsize =>
    obtain rfl := Except.error.inj h
    exact .emptyCluster (hsize ▸ hgive)
  case isFalse hsize =>
    split at h
    case isTrue hrange =>
      obtain rfl := Except.error.inj h
      exact .indexOutOfRange hgive (Nat.pos_of_ne_zero hsize) hrange
    case isFalse hrange =>
      split at h
      case isFalse => contradiction
      case isTrue hlength =>
        obtain rfl := Except.error.inj h
        rw [length_splitAddresses] at hlength ⊢
        exact .addressCount hgive (by omega) (by omega) hlength

/-- Arguments that are not resolved are reported with the first check that they fail. -/
theorem firstFault_of_resolve {arguments : Arguments} {failure : Failure}
    (h : arguments.resolve = .error failure) : arguments.FirstFault failure failure.message := by
  simp only [resolve, bind_eq_error_iff] at h
  rcases h with h | ⟨index, hindex, h | ⟨size, hsize, h | ⟨first, hfirst, h |
    ⟨second, hsecond, h⟩⟩⟩⟩
  · obtain ⟨⟨fault, rfl⟩, hnone⟩ := not_ok_of_readNumeral_eq_error h
    exact .nodeIndex fault fun i hi => hnone i (readNumeral_int64_eq_ok_iff.mpr hi)
  · obtain ⟨⟨fault, rfl⟩, hnone⟩ := not_ok_of_readNumeral_eq_error h
    exact .clusterSize fault (readNumeral_int64_eq_ok_iff.mp hindex)
      fun n hn => hnone n (readNumeral_nat64_eq_ok_iff.mpr hn)
  · obtain ⟨⟨fault, rfl⟩, hnone⟩ := not_ok_of_readNumeral_eq_error h
    exact .firstTiming fault (readNumeral_int64_eq_ok_iff.mp hindex)
      (readNumeral_nat64_eq_ok_iff.mp hsize)
      fun n hn => hnone n (readNumeral_nat64_eq_ok_iff.mpr hn)
  · obtain ⟨⟨fault, rfl⟩, hnone⟩ := not_ok_of_readNumeral_eq_error h
    exact .secondTiming fault (readNumeral_int64_eq_ok_iff.mp hindex)
      (readNumeral_nat64_eq_ok_iff.mp hsize) (readNumeral_nat64_eq_ok_iff.mp hfirst)
      fun n hn => hnone n (readNumeral_nat64_eq_ok_iff.mpr hn)
  · refine firstFault_of_locate ⟨?_, ?_, ?_, ?_⟩ h
    · exact readNumeral_int64_eq_ok_iff.mp hindex
    · exact readNumeral_nat64_eq_ok_iff.mp hsize
    · exact readNumeral_nat64_eq_ok_iff.mp hfirst
    · exact readNumeral_nat64_eq_ok_iff.mp hsecond

/-- **Arguments are resolved exactly when they are valid**, to what was given and nothing else; and
all other arguments are reported with the first check that they fail. -/
theorem resolve_valid_or_firstFault (arguments : Arguments) :
    ((∃ resolved, arguments.resolve = .ok resolved) ↔
      ∃ index size timing, arguments.Valid index size timing) ∧
    (∀ cluster site, arguments.resolve = .ok (cluster, site) → arguments.ResolveTo cluster site) ∧
    ∀ failure, arguments.resolve = .error failure →
      arguments.FirstFault failure failure.message :=
  ⟨exists_resolve_iff_valid, fun _ _ => resolveTo_of_resolve, fun _ => firstFault_of_resolve⟩

/-- Arguments with blanks, signs and zeros in front, and with an empty address. -/
def unusual : Arguments where
  basePath := ⟨"c"⟩
  nodeIndex := "\t+01 "
  clusterSize := "3"
  addresses := "a:1,, b"
  firstTiming := "007"
  secondTiming := "18446744073709551615"

/-- Two faults in the same arguments: no node, and a number of more than 64 bits. -/
def twoFaults : Arguments :=
  { unusual with clusterSize := "0", secondTiming := "18446744073709551616 " }

/-- Unusual arguments are resolved to what was given, and of two faults the one that is checked
first is reported. -/
theorem resolve_unusual :
    unusual.resolve =
      .ok (⟨3, ["a:1", "", " b"], 7, 18446744073709551615⟩, .ofIndex ⟨"c"⟩ 1) ∧
    unusual.ResolveTo ⟨3, ["a:1", "", " b"], 7, 18446744073709551615⟩ (.ofIndex ⟨"c"⟩ 1) ∧
    twoFaults.FirstFault (.malformedNumeral .secondTiming "18446744073709551616 " .tooLarge)
      (Failure.invalidArgument "param2"
        "`18446744073709551616 `: number too large to fit in target type") := by
  have hresolve : unusual.resolve =
      .ok (⟨3, ["a:1", "", " b"], 7, 18446744073709551615⟩, .ofIndex ⟨"c"⟩ 1) := rfl
  refine ⟨hresolve, (resolve_valid_or_firstFault unusual).2.1 _ _ hresolve, ?_⟩
  exact (resolve_valid_or_firstFault twoFaults).2.2 _ rfl

end Arguments

end ClusterConfig
