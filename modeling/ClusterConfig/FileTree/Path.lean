/-
# Paths

A path is a text in which names are separated by slashes. It is kept and shown as it was given:
joining a name to it neither removes `.` and `..` nor doubled slashes.

Main statements: joining a relative name to a base adds the name at the end, after a slash that is
added only where the base needs one (`join_text`); and a path to which a plain name is joined leads
through the names of the base and then to that name (`components_join`).
-/
namespace ClusterConfig

/-- A path, as the text it was given as. -/
structure Path where
  text : String
  deriving DecidableEq, Repr, Inhabited

namespace Path

/-! ## Joining -/

/-- A path that starts at the root. -/
def isAbsolute (p : Path) : Bool := p.text.toList.head? == some '/'

/-- A path that ends in a slash. -/
def endsInSlash (p : Path) : Bool := p.text.toList.getLast? == some '/'

/-- What stands between a base and a name joined to it. -/
def separator (base : Path) : String :=
  if base.text = "" || base.endsInSlash then "" else "/"

/-- A name below a base; an absolute name stands for itself. -/
def join (base : Path) (name : String) : Path :=
  if isAbsolute ⟨name⟩ then ⟨name⟩ else ⟨base.text ++ base.separator ++ name⟩

/-- A relative name is added at the end. -/
theorem join_text {base : Path} {name : String} (h : isAbsolute ⟨name⟩ = false) :
    (base.join name).text = base.text ++ base.separator ++ name := by
  simp [join, h]

/-! ## Components -/

/-- The names that a path leads through, without those between two slashes. -/
def components (p : Path) : List String :=
  ((p.text.toList.splitOn '/').map String.ofList).filter (· ≠ "")

/-! ## Plain names -/

/-- A name of one file or directory, which leads neither up nor back to where it stands. -/
def IsPlainName (name : String) : Prop :=
  name ∉ ["", ".", ".."] ∧ '/' ∉ name.toList

instance : DecidablePred IsPlainName := fun name =>
  inferInstanceAs (Decidable (name ∉ ["", ".", ".."] ∧ '/' ∉ name.toList))

variable {base : Path} {name : String}

/-- A plain name is not empty, and it is none of the two names that lead back and up. -/
theorem IsPlainName.ne (h : IsPlainName name) : name ≠ "" ∧ name ≠ "." ∧ name ≠ ".." := by
  have hmem := h.1
  rw [List.mem_cons, List.mem_cons, List.mem_singleton, not_or, not_or] at hmem
  exact hmem

/-- A plain name has a first character, and no slash. -/
theorem IsPlainName.toList_eq_cons (h : IsPlainName name) :
    ∃ c rest, name.toList = c :: rest ∧ '/' ∉ c :: rest := by
  have hne : name.toList ≠ [] := fun hnil => h.ne.1 (String.toList_eq_nil_iff.mp hnil)
  obtain ⟨c, rest, heq⟩ := List.exists_cons_of_ne_nil hne
  exact ⟨c, rest, heq, heq ▸ h.2⟩

/-- A plain name is relative. -/
theorem IsPlainName.not_isAbsolute (h : IsPlainName name) : isAbsolute ⟨name⟩ = false := by
  obtain ⟨c, rest, heq, hslash⟩ := h.toList_eq_cons
  have hc : c ≠ '/' := fun hc => hslash (hc ▸ List.mem_cons_self)
  simp [isAbsolute, heq, hc]

/-- A plain name is added at the end of the characters of its base. -/
theorem toList_join (h : IsPlainName name) :
    (base.join name).text.toList =
      base.text.toList ++ (base.separator.toList ++ name.toList) := by
  rw [join_text h.not_isAbsolute, String.toList_append, String.toList_append, List.append_assoc]

/-- A plain name is added at the end of the bytes of its base. -/
theorem utf8ByteSize_join (h : IsPlainName name) :
    (base.join name).text.utf8ByteSize =
      base.text.utf8ByteSize + base.separator.utf8ByteSize + name.utf8ByteSize := by
  rw [join_text h.not_isAbsolute, String.utf8ByteSize_append, String.utf8ByteSize_append]

/-- A path with a plain name at its end does not end in a slash. -/
theorem endsInSlash_join (h : IsPlainName name) : (base.join name).endsInSlash = false := by
  obtain ⟨c, rest, heq, hslash⟩ := h.toList_eq_cons
  have hlast : (base.join name).text.toList.getLast? = (c :: rest).getLast? := by
    rw [toList_join h, heq, ← List.append_assoc, List.getLast?_append, Option.or_of_isSome]
    simp
  rw [endsInSlash, hlast]
  cases hget : (c :: rest).getLast? with
  | none => rfl
  | some d =>
    have hd : d ≠ '/' := fun hd => hslash (hd ▸ List.mem_of_getLast? hget)
    simp [hd]

/-- A path starts at the root when its base does. -/
theorem isAbsolute_join (h : IsPlainName name) : (base.join name).isAbsolute = base.isAbsolute := by
  obtain ⟨c, rest, heq, hslash⟩ := h.toList_eq_cons
  have hc : c ≠ '/' := fun hc => hslash (hc ▸ List.mem_cons_self)
  rw [isAbsolute, isAbsolute, toList_join h, heq, separator]
  cases hbase : base.text.toList with
  | nil =>
    have hempty : base.text = "" := String.toList_eq_nil_iff.mp hbase
    simp [hempty, hc]
  | cons d more => simp

/-- The names on the two sides of a slash. -/
theorem components_append_slash (s t : List Char) :
    components ⟨String.ofList (s ++ '/' :: t)⟩ =
      components ⟨String.ofList s⟩ ++ components ⟨String.ofList t⟩ := by
  simp only [components, String.toList_ofList]
  rw [List.splitOn_append_cons_self, List.map_append, List.filter_append]

/-- A plain name is its only component. -/
theorem components_of_isPlainName (h : IsPlainName name) : components ⟨name⟩ = [name] := by
  rw [components, List.splitOn_eq_singleton h.2]
  simp [h.ne.1]

/-- **A path with a plain name at its end leads through its base.** -/
theorem components_join (h : IsPlainName name) :
    (base.join name).components = base.components ++ [name] := by
  have hjoin : base.join name = ⟨String.ofList (base.text.toList ++
      (base.separator.toList ++ name.toList))⟩ := by
    rw [← toList_join h, String.ofList_toList]
  by_cases hempty : base.text = ""
  · have hbase : base = ⟨""⟩ := congrArg mk hempty
    rw [hjoin, hbase, ← components_of_isPlainName h]
    simp [separator, components]
  by_cases hslash : base.endsInSlash = true
  · -- The base ends in a slash of its own, which is the one in front of the name.
    obtain ⟨s, hs⟩ : ∃ s, base.text.toList = s ++ ['/'] := by
      have hlast : base.text.toList.getLast? = some '/' := by simpa [endsInSlash] using hslash
      exact List.getLast?_eq_some_iff.mp hlast
    have hbase : base.components = components ⟨String.ofList s⟩ := by
      have hend := components_append_slash s []
      rw [← hs, String.ofList_toList] at hend
      exact hend.trans (List.append_nil _)
    have hseparator : base.separator = "" := by simp [separator, hslash]
    rw [hjoin, hseparator, hs, hbase, ← components_of_isPlainName h]
    simpa using components_append_slash s name.toList
  · have hseparator : base.separator = "/" := by simp [separator, hempty, hslash]
    rw [hjoin, hseparator, ← components_of_isPlainName h]
    simpa using components_append_slash base.text.toList name.toList

end Path

end ClusterConfig
