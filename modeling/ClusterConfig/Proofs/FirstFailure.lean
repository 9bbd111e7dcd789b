/-
# Which failure is reported

A run makes its checks in one fixed order: the arguments, the files of keys, the keypair of the
node, the time servers, the address of the node, the addresses of all nodes, and last the file that
is to be written. Here every check is made on its own, on the tree as it was before the run, and
whatever the other checks give.

Main statement: a run reports the first check that fails, and it succeeds exactly when none does
(`generate_firstFailure`). The address of the node itself comes before those of nodes with a lower
index.

The proof goes along the run: a step fails as a check does (`FailsAs`), and a sequence of steps
fails as the first of their checks (`FailsAs.bind`).
-/
import ClusterConfig.Job
import ClusterConfig.Proofs.Peers

namespace ClusterConfig

open Text

/-! ## The checks -/

namespace Check

/-- A file of keys is read. -/
def keyFile (files : FileReader) (path : Path) : Option Failure :=
  match files path with
  | .ok _ => none
  | .error fault => some (.unreadable path fault)

/-- The keypairs reach up to the public line of the node. The first line that is missing is
reported. -/
def ownKeypair (files : FileReader) (site : Site) : Option Failure :=
  let path := KeyFile.keypairs.path site
  match files path with
  | .error _ => none
  | .ok keypairs =>
    let count := (keyLines keypairs.toList).length
    if count ≤ 3 * site.index then some (.missingLine path (3 * site.index))
    else if count ≤ 3 * site.index + 1 then some (.missingLine path (3 * site.index + 1))
    else none

/-- The files of a layout are read, and the keypair of the node is found if there are keypairs. -/
def keys (files : FileReader) (site : Site) : KeyLayout → List (Option Failure)
  | .authority =>
    [keyFile files (KeyFile.minerSecret.path site), keyFile files (KeyFile.signerSecret.path site),
      keyFile files (KeyFile.signers.path site), keyFile files (KeyFile.miners.path site)]
  | .keypair =>
    [keyFile files (KeyFile.keypairs.path site), keyFile files (KeyFile.signerSecret.path site),
      keyFile files (KeyFile.signers.path site), ownKeypair files site]

/-- The time servers are read or absent. -/
def timeServers (files : FileReader) (site : Site) : Option Failure :=
  match files site.timeServers with
  | .ok _ | .error .notFound => none
  | .error fault => some (.unreadable site.timeServers fault)

/-- The address of a node is a host and a port. -/
def address (index : Nat) (given : String) : Option Failure :=
  if Address.read? given = none then some (.malformedAddress index given) else none

/-- The address of the node itself is one. -/
def ownAddress (cluster : Cluster) (site : Site) : Option Failure :=
  cluster.addresses[site.index]?.bind (address site.index)

/-- The addresses of all nodes are. The one with the lowest index is reported. -/
def addresses (cluster : Cluster) : Option Failure :=
  cluster.addresses.zipIdx.findSome? fun (given, index) => address index given

/-- The configuration can be written. -/
def config (tree : FileTree) (site : Site) : Option Failure :=
  match tree.target site.config with
  | .ok _ => none
  | .error fault => some (.unwritable site.config fault)

/-- All checks after the one of the arguments, in the order in which they are made. -/
def all (layout : KeyLayout) (cluster : Cluster) (site : Site) (tree : FileTree) :
    List (Option Failure) :=
  keys tree.readText site layout ++
    [timeServers tree.readText site, ownAddress cluster site, addresses cluster, config tree site]

/-- The first failure among checks. -/
def first (checks : List (Option Failure)) : Option Failure := checks.findSome? id

@[simp] theorem first_nil : first [] = none := rfl

@[simp] theorem first_cons (check : Option Failure) (checks : List (Option Failure)) :
    first (check :: checks) = check.or (first checks) := by
  cases check <;> rfl

@[simp] theorem first_append (checks more : List (Option Failure)) :
    first (checks ++ more) = (first checks).or (first more) :=
  List.findSome?_append

/-- No check fails when there is no first failure. -/
theorem first_eq_none_iff {checks : List (Option Failure)} :
    first checks = none ↔ ∀ check ∈ checks, check = none :=
  List.findSome?_eq_none_iff

end Check

/-! ## Failing as a check -/

/-- A result is a failure exactly when a check is, and the same one. -/
def FailsAs {α : Type} (result : Except Failure α) (check : Option Failure) : Prop :=
  ∀ failure, result = .error failure ↔ check = some failure

namespace FailsAs

variable {α β : Type}

/-- A value fails as no check. -/
theorem ok (a : α) : FailsAs (.ok a) none := fun _ => by simp

/-- A failure fails as itself. -/
theorem error (failure : Failure) : FailsAs (.error failure : Except Failure α) (some failure) :=
  fun _ => by simp

/-- There is a value where no check fails. -/
theorem exists_ok {result : Except Failure α} (h : FailsAs result none) : ∃ a, result = .ok a := by
  cases result with
  | error failure => exact absurd ((h failure).mp rfl) (Option.some_ne_none failure).symm
  | ok a => exact ⟨a, rfl⟩

/-- No check fails where there is a value. -/
theorem eq_none {result : Except Failure α} {check : Option Failure} {a : α}
    (h : FailsAs result check) (hok : result = .ok a) : check = none := by
  cases check with
  | none => rfl
  | some failure =>
    have herror : result = .error failure := (h failure).mpr rfl
    rw [hok] at herror
    contradiction

/-- There is a value exactly where no check fails. -/
theorem exists_ok_iff {result : Except Failure α} {check : Option Failure}
    (h : FailsAs result check) : (∃ a, result = .ok a) ↔ check = none := by
  constructor
  · rintro ⟨a, ha⟩
    exact h.eq_none ha
  · rintro rfl
    exact h.exists_ok

/-- Two steps fail as the first of their checks. The second step may use what the first one gives,
but its check does not. -/
theorem bind {first : Except Failure α} {next : α → Except Failure β} {check more : Option Failure}
    (hfirst : FailsAs first check) (hnext : ∀ a, first = .ok a → FailsAs (next a) more) :
    FailsAs (first >>= next) (check.or more) := by
  intro failure
  rw [bind_eq_error_iff, hfirst failure]
  cases check with
  | some found =>
    have herror : first = .error found := (hfirst found).mpr rfl
    simp [herror]
  | none =>
    obtain ⟨a, ha⟩ := hfirst.exists_ok
    simp [ha, hnext a ha failure]

/-- What is made of a value fails as the value does. -/
theorem bind_ok {first : Except Failure α} {make : α → β} {check : Option Failure}
    (hfirst : FailsAs first check) : FailsAs (first >>= fun a => .ok (make a)) check := by
  have hmake : FailsAs (first >>= fun a => .ok (make a)) (check.or none) :=
    hfirst.bind fun a _ => ok (make a)
  rwa [Option.or_none] at hmake

/-- Steps on the members of a list fail as the first of their checks. -/
theorem mapM {step : α → Except Failure β} {check : α → Option Failure} {members : List α}
    (h : ∀ a ∈ members, FailsAs (step a) (check a)) :
    FailsAs (members.mapM step) (members.findSome? check) := by
  induction members with
  | nil => exact ok []
  | cons a members ih =>
    have hrest := ih fun b hb => h b (List.mem_cons_of_mem a hb)
    have hchecks : (a :: members).findSome? check = (check a).or (members.findSome? check) := by
      rw [List.findSome?_cons]
      cases check a <;> rfl
    rw [List.mapM_cons, hchecks]
    exact (h a List.mem_cons_self).bind fun b _ => hrest.bind_ok

end FailsAs

/-! ## The steps of a run -/

section Steps

variable {files : FileReader} {cluster : Cluster} {site : Site}

/-- A file of keys fails as its check. -/
theorem failsAs_readKeyFile (files : FileReader) (path : Path) :
    FailsAs (readKeyFile files path).result (Check.keyFile files path) := by
  rw [result_readKeyFile, Check.keyFile]
  cases files path with
  | error fault => exact .error _
  | ok text => exact .ok text

/-- A secret fails as the check of its file. -/
theorem failsAs_readSecret (files : FileReader) (path : Path) :
    FailsAs (readSecret files path).result (Check.keyFile files path) := by
  rw [readSecret, Logged.result_bind]
  exact (failsAs_readKeyFile files path).bind_ok

/-- The keypair of a node fails as its check, once the keypairs are read. -/
theorem failsAs_ownSecret {keypairs : String}
    (hkeypairs : files (KeyFile.keypairs.path site) = .ok keypairs) :
    FailsAs (ownSecret (KeyFile.keypairs.path site) (keyLines keypairs.toList) site.index)
      (Check.ownKeypair files site) := by
  simp only [Check.ownKeypair, hkeypairs]
  generalize keyLines keypairs.toList = lines
  unfold ownSecret
  split
  case h_1 secret key hsecret hkey =>
    have hlength : 3 * site.index + 1 < lines.length := (List.getElem?_eq_some_iff.mp hkey).1
    rw [if_neg (by omega), if_neg (by omega)]
    exact .ok secret
  case h_2 secret hsecret hkey =>
    have hlength : 3 * site.index < lines.length := (List.getElem?_eq_some_iff.mp hsecret).1
    rw [if_neg (by omega), if_pos (List.getElem?_eq_none_iff.mp hkey)]
    exact .error _
  case h_3 key hsecret =>
    rw [if_pos (List.getElem?_eq_none_iff.mp hsecret)]
    exact .error _

/-- The key material fails as the first check of its files. -/
theorem failsAs_load (files : FileReader) (layout : KeyLayout) (site : Site) :
    FailsAs (KeyMaterial.load files layout site).result
      (Check.first (Check.keys files site layout)) := by
  cases layout with
  | authority =>
    simp only [KeyMaterial.load, Logged.result_bind, Check.keys, Check.first_cons]
    refine (failsAs_readSecret _ _).bind fun minerSecret _ => ?_
    refine (failsAs_readSecret _ _).bind fun signerSecret _ => ?_
    refine (failsAs_readKeyFile _ _).bind fun signers _ => ?_
    exact (failsAs_readKeyFile _ _).bind fun miners _ => .ok _
  | keypair =>
    simp only [KeyMaterial.load, Logged.result_bind, Check.keys, Check.first_cons]
    refine (failsAs_readKeyFile _ _).bind fun keypairs hkeypairs => ?_
    refine (failsAs_readSecret _ _).bind fun signerSecret _ => ?_
    refine (failsAs_readKeyFile _ _).bind fun signers _ => ?_
    exact (failsAs_ownSecret (readKeyFile_eq_ok_iff.mp hkeypairs)).bind fun secret _ => .ok _

/-- The time servers fail as their check. -/
theorem failsAs_readOptionalFile (files : FileReader) (site : Site) :
    FailsAs (readOptionalFile files site.timeServers).result (Check.timeServers files site) := by
  unfold readOptionalFile Check.timeServers
  cases files site.timeServers with
  | ok text => exact .ok (some text)
  | error fault =>
    cases fault with
    | notFound => exact .ok none
    | isDirectory | notDirectory | nameTooLong | notText => exact .error _

/-- An address fails as its check. -/
theorem failsAs_ofNode (index : Nat) (given : String) :
    FailsAs (Address.ofNode index given) (Check.address index given) := by
  unfold Address.ofNode Check.address
  split
  case h_1 address hread =>
    rw [if_neg (by simp [hread])]
    exact .ok address
  case h_2 hread =>
    rw [if_pos hread]
    exact .error _

/-- The members that a filter takes away are not missed by a search that finds nothing in them. -/
theorem findSome?_filter_of_none {α β : Type} {keep : α → Bool} {find : α → Option β} {l : List α}
    (h : ∀ a ∈ l, keep a = false → find a = none) :
    (l.filter keep).findSome? find = l.findSome? find := by
  induction l with
  | nil => rfl
  | cons a l ih =>
    have hrest := ih fun b hb => h b (List.mem_cons_of_mem a hb)
    cases hkeep : keep a with
    | true => rw [List.filter_cons_of_pos hkeep, List.findSome?_cons, List.findSome?_cons, hrest]
    | false =>
      have hnone : find a = none := h a List.mem_cons_self hkeep
      rw [List.filter_cons_of_neg (by simp [hkeep]), List.findSome?_cons, hnone, hrest]

/-- The peers fail as the first of the checks of the other addresses. -/
theorem failsAs_others (cluster : Cluster) (self : Nat) :
    FailsAs (cluster.peers self)
      ((cluster.others self).findSome? fun (given, index) => Check.address index given) :=
  FailsAs.mapM fun node _ => (failsAs_ofNode node.2 node.1).bind_ok

/-- The peers fail as the check of all addresses, once the own address has been read. -/
theorem failsAs_peers {own : String} (hown : cluster.addresses[site.index]? = some own)
    (haddress : Check.address site.index own = none) :
    FailsAs (cluster.peers site.index) (Check.addresses cluster) := by
  -- Leaving the node itself out takes no failure away, as its own address is none.
  have hself : ∀ node ∈ cluster.addresses.zipIdx, decide (node.2 ≠ site.index) = false →
      Check.address node.2 node.1 = none := by
    rintro ⟨given, index⟩ hmem hindex
    obtain rfl : index = site.index := by simpa using hindex
    have hgiven : cluster.addresses[site.index]? = some given :=
      List.mk_mem_zipIdx_iff_getElem?.mp hmem
    obtain rfl : own = given := Option.some.inj (hown.symm.trans hgiven)
    exact haddress
  rw [Check.addresses, ← findSome?_filter_of_none hself]
  exact failsAs_others cluster site.index

/-- A document fails as the first of the checks on what it is made of. -/
theorem failsAs_assemble {layout : KeyLayout} {options : Options}
    (hindex : site.index < cluster.addresses.length) :
    FailsAs (Document.assemble files layout cluster site options).result
      (Check.first (Check.keys files site layout ++
        [Check.timeServers files site, Check.ownAddress cluster site,
          Check.addresses cluster])) := by
  have hown : cluster.addresses[site.index]? = some cluster.addresses[site.index] :=
    List.getElem?_eq_getElem hindex
  simp only [Document.assemble, hown, Logged.result_bind, Check.first_append, Check.first_cons,
    Check.ownAddress, Option.bind_some]
  refine (failsAs_load files layout site).bind fun keys _ => ?_
  refine (failsAs_readOptionalFile files site).bind fun timeServers _ => ?_
  have haddress := failsAs_ofNode site.index cluster.addresses[site.index]
  refine haddress.bind fun address hread => ?_
  exact (failsAs_peers hown (haddress.eq_none hread)).bind fun peers _ => .ok _

/-- Saving a plan fails as the check of its path. -/
theorem failsAs_conclude {tree : FileTree} {document : Document} :
    FailsAs ((⟨site.config, document⟩ : Plan).conclude
      ((tree.target site.config).map fun _ => ())).result (Check.config tree site) := by
  unfold Check.config
  cases tree.target site.config with
  | error fault => exact .error _
  | ok location => exact .ok _

end Steps

/-! ## Runs -/

namespace Job

variable {job : Job} {tree : FileTree} {cluster : Cluster} {site : Site}

/-- A plan fails as the first of the checks on its document. -/
theorem failsAs_plan (hresolve : job.arguments.resolve = .ok (cluster, site)) :
    FailsAs (job.plan tree.readText).result
      (Check.first (Check.keys tree.readText site job.layout ++
        [Check.timeServers tree.readText site, Check.ownAddress cluster site,
          Check.addresses cluster])) := by
  obtain ⟨hlength, hindex⟩ := Arguments.resolve_bounds hresolve
  simp only [plan, hresolve, Logged.result_bind]
  exact (failsAs_assemble (hlength ▸ hindex)).bind_ok

/-- A run whose arguments are resolved fails as the first of its checks. -/
theorem failsAs_generate (hresolve : job.arguments.resolve = .ok (cluster, site)) :
    FailsAs (job.generate tree).1.result
      (Check.first (Check.all job.layout cluster site tree)) := by
  have hall : Check.first (Check.all job.layout cluster site tree) =
      (Check.first (Check.keys tree.readText site job.layout ++
        [Check.timeServers tree.readText site, Check.ownAddress cluster site,
          Check.addresses cluster])).or (Check.config tree site) := by
    simp only [Check.all, Check.first_append, Check.first_cons, Check.first_nil, Option.or_none,
      Option.or_assoc]
  rw [generate_report, Logged.result_bind, hall]
  refine (failsAs_plan hresolve).bind fun plan hplan => ?_
  obtain ⟨_, _, document, hsame, -, rfl⟩ := plan_eq_ok_iff.mp hplan
  obtain ⟨rfl, rfl⟩ := Prod.mk.inj (Except.ok.inj (hresolve.symm.trans hsame))
  exact failsAs_conclude

/-- A run that succeeds has its arguments resolved. -/
theorem exists_resolve_of_generate {path : Path} (h : (job.generate tree).1.result = .ok path) :
    ∃ cluster site, job.arguments.resolve = .ok (cluster, site) := by
  obtain ⟨plan, -, hplan, -, -⟩ := exists_plan_of_generate h
  obtain ⟨cluster, site, document, hresolve, -, -⟩ := plan_eq_ok_iff.mp hplan
  exact ⟨cluster, site, hresolve⟩

/-- The result of a run whose arguments are resolved: the first failure among its checks, or the
path of the configuration when there is none. -/
theorem result_generate (hresolve : job.arguments.resolve = .ok (cluster, site)) :
    (job.generate tree).1.result =
      match Check.first (Check.all job.layout cluster site tree) with
      | some failure => .error failure
      | none => .ok site.config := by
  have hfails : FailsAs (job.generate tree).1.result
      (Check.first (Check.all job.layout cluster site tree)) := failsAs_generate hresolve
  cases hfirst : Check.first (Check.all job.layout cluster site tree) with
  | some failure => exact (hfails failure).mpr hfirst
  | none =>
    rw [hfirst] at hfails
    obtain ⟨path, hpath⟩ := hfails.exists_ok
    obtain ⟨rfl, -⟩ := exists_document_of_generate hresolve hpath
    exact hpath

/-- A run succeeds exactly when its arguments are resolved and no check fails. -/
theorem exists_ok_iff_checks :
    (∃ path, (job.generate tree).1.result = .ok path) ↔
      ∃ cluster site, job.arguments.resolve = .ok (cluster, site) ∧
        ∀ check ∈ Check.all job.layout cluster site tree, check = none := by
  constructor
  · rintro ⟨path, hpath⟩
    obtain ⟨cluster, site, hresolve⟩ := exists_resolve_of_generate hpath
    have hfirst : Check.first (Check.all job.layout cluster site tree) = none :=
      (failsAs_generate hresolve).eq_none hpath
    exact ⟨cluster, site, hresolve, Check.first_eq_none_iff.mp hfirst⟩
  · rintro ⟨cluster, site, hresolve, hchecks⟩
    rw [result_generate hresolve, Check.first_eq_none_iff.mpr hchecks]
    exact ⟨site.config, rfl⟩

/-- The own address is reported whatever the addresses of the other nodes are, once the keys and
the time servers have been found. -/
theorem first_all_of_ownAddress {layout : KeyLayout} {failure : Failure}
    (hkeys : ∀ check ∈ Check.keys tree.readText site layout, check = none)
    (htime : Check.timeServers tree.readText site = none)
    (hown : Check.ownAddress cluster site = some failure) :
    Check.first (Check.all layout cluster site tree) = some failure := by
  rw [Check.all, Check.first_append, Check.first_eq_none_iff.mpr hkeys, Check.first_cons, htime,
    Check.first_cons, hown]
  rfl

/-- **The failure of a run is that of the first check that fails**, in the order of the arguments,
the files of keys, the keypair of the node, the time servers, its own address, the addresses of all
nodes and the file to be written. It succeeds exactly when no check fails. And an own address that
is malformed is reported even where a node with a lower index has a malformed one too. -/
theorem generate_firstFailure (job : Job) (tree : FileTree) :
    ((job.generate tree).1.result =
      match job.arguments.resolve with
      | .error failure => .error failure
      | .ok (cluster, site) =>
        match Check.first (Check.all job.layout cluster site tree) with
        | some failure => .error failure
        | none => .ok site.config) ∧
    ((∃ path, (job.generate tree).1.result = .ok path) ↔
      ∃ cluster site, job.arguments.resolve = .ok (cluster, site) ∧
        ∀ check ∈ Check.all job.layout cluster site tree, check = none) ∧
    ∀ cluster site own, job.arguments.resolve = .ok (cluster, site) →
      (∀ check ∈ Check.keys tree.readText site job.layout, check = none) →
      Check.timeServers tree.readText site = none →
      cluster.addresses[site.index]? = some own → Address.read? own = none →
      (job.generate tree).1.result = .error (.malformedAddress site.index own) := by
  refine ⟨?_, ?_, ?_⟩
  · cases hresolve : job.arguments.resolve with
    | error failure =>
      rw [generate_report, plan, hresolve]
      rfl
    | ok resolved => exact result_generate hresolve
  · exact exists_ok_iff_checks
  · intro cluster site own hresolve hkeys htime hown hread
    have hcheck : Check.ownAddress cluster site = some (.malformedAddress site.index own) := by
      rw [Check.ownAddress, hown, Option.bind_some, Check.address, if_pos hread]
    rw [result_generate hresolve, first_all_of_ownAddress hkeys htime hcheck]

/-- A run of the second of two nodes whose addresses have no ports. -/
def withoutPorts : Job where
  arguments :=
    { basePath := ⟨"c"⟩
      nodeIndex := "1"
      clusterSize := "2"
      addresses := "a,b"
      firstTiming := "6"
      secondTiming := "10" }

/-- The keys of the second of two nodes. -/
def keysOfSecond : FileTree :=
  [("c/node1/miner_privkey", "m1"), ("c/node1/signer_privkey", "s1"),
    ("c/signer_authorities", "S0\nS1\n"), ("c/miner_authorities", "M0\nM1\n")].foldl
    (fun tree (path, text) => tree.put ⟨path⟩ (.file text.toUTF8)) (.empty "w")

/-- The second of the two nodes is reported for its own address, though the first address is
malformed, too. -/
theorem generate_withoutPorts :
    Check.addresses ⟨2, ["a", "b"], 6, 10⟩ = some (.malformedAddress 0 "a") ∧
    (withoutPorts.generate keysOfSecond).1.result = .error (.malformedAddress 1 "b") := by
  have hresolve : withoutPorts.arguments.resolve =
      .ok (⟨2, ["a", "b"], 6, 10⟩, .ofIndex ⟨"c"⟩ 1) := rfl
  have hkeys : ∀ check ∈ Check.keys keysOfSecond.readText (.ofIndex ⟨"c"⟩ 1) withoutPorts.layout,
      check = none := by
    decide +kernel
  have htime : Check.timeServers keysOfSecond.readText (.ofIndex ⟨"c"⟩ 1) = none := by
    decide +kernel
  refine ⟨by decide, ?_⟩
  exact (generate_firstFailure withoutPorts keysOfSecond).2.2 _ _ "b" hresolve hkeys htime rfl rfl

end Job

end ClusterConfig
