/-
# Reading documents

Reading a document back from its text, in the part of TOML that documents without literals are
written in: fields with bare names, whose values are natural numbers without leading zeros or
quoted strings, and tables that are members of arrays. Blanks may stand around the equals sign
and after a value. No name is given twice in one table, and the name of a table is not also the
name of a setting.

Main statement: reading a field takes at least one character of the text (`length_readField`),
so that fields and tables are read by recursion on what is left.
-/
import ClusterConfig.Text.Quoted.Reader
import ClusterConfig.Document.Basic

namespace ClusterConfig.Document

open Text

/-! ## Values -/

/-- Reads a natural number. -/
def readNumber? (s : List Char) : Option (Nat × List Char) :=
  let digits := s.takeWhile Char.isDigit
  if digits = [] ∨ digits.head? = some '0' ∧ digits ≠ ['0'] then none
  else some (Nat.ofDigitChars 10 digits 0, s.dropWhile Char.isDigit)

/-- Reads a number or a text. -/
def readValue? (s : List Char) : Option (Value × List Char) :=
  if s.head? = some '"' ∨ s.head? = some '\'' then
    (Quoted.read? s).map fun (content, rest) => (.text (String.ofList content), rest)
  else (readNumber? s).map fun (n, rest) => (.number n, rest)

/-! ## Fields -/

/-- The characters of names that are not quoted. -/
def isNameChar (c : Char) : Bool := c.isAlphanum || c = '_' || c = '-'

/-- Reads a name. -/
def readName? (s : List Char) : Option (String × List Char) :=
  let name := s.takeWhile isNameChar
  if name = [] then none else some (String.ofList name, s.dropWhile isNameChar)

/-- Skips the blanks that stand within a line. -/
def skipSpaces (s : List Char) : List Char := s.dropWhile Quoted.isSpace

/-- Reads one character. -/
def expect (c : Char) : List Char → Option (List Char)
  | d :: rest => if d = c then some rest else none
  | [] => none

/-- Reads a field with the end of its line. -/
def readField? (s : List Char) : Option (Field × List Char) := do
  let (name, rest) ← readName? s
  let rest ← expect '=' (skipSpaces rest)
  let (value, rest) ← readValue? (skipSpaces rest)
  let rest ← expect '\n' (skipSpaces rest)
  return (⟨name, value⟩, rest)

/-- Blanks are taken away. -/
theorem length_skipSpaces (s : List Char) : (skipSpaces s).length ≤ s.length :=
  (List.dropWhile_sublist _).length_le

/-- An expected character is taken. -/
theorem length_expect {c : Char} {s rest : List Char} (h : expect c s = some rest) :
    rest.length < s.length := by
  unfold expect at h
  split at h
  · rw [Option.ite_none_right_eq_some] at h
    simp [Option.some.inj h.2]
  · contradiction

/-- A name is taken. -/
theorem length_readName {s rest : List Char} {name : String} (h : readName? s = some (name, rest)) :
    rest.length ≤ s.length := by
  rw [readName?, Option.ite_none_left_eq_some] at h
  obtain ⟨_, rfl⟩ := Prod.mk.inj (Option.some.inj h.2)
  exact (List.dropWhile_sublist _).length_le

/-- A value is taken. -/
theorem length_readValue {s rest : List Char} {value : Value}
    (h : readValue? s = some (value, rest)) : rest.length ≤ s.length := by
  unfold readValue? at h
  split at h
  · obtain ⟨⟨content, _⟩, hread, heq⟩ := Option.map_eq_some_iff.mp h
    obtain ⟨_, rfl⟩ := Prod.mk.inj heq
    exact Nat.le_of_lt (Quoted.length_read hread)
  · obtain ⟨⟨n, _⟩, hread, heq⟩ := Option.map_eq_some_iff.mp h
    obtain ⟨_, rfl⟩ := Prod.mk.inj heq
    rw [readNumber?, Option.ite_none_left_eq_some] at hread
    obtain ⟨_, rfl⟩ := Prod.mk.inj (Option.some.inj hread.2)
    exact (List.dropWhile_sublist _).length_le

/-- A field takes at least one character. -/
theorem length_readField {s rest : List Char} {field : Field}
    (h : readField? s = some (field, rest)) : rest.length < s.length := by
  simp only [readField?, Option.bind_eq_bind, Option.bind_eq_some_iff, Option.pure_def] at h
  obtain ⟨⟨name, afterName⟩, hname, afterEquals, hequals, ⟨value, afterValue⟩, hvalue, afterLine,
    hline, heq⟩ := h
  obtain ⟨_, rfl⟩ := Prod.mk.inj (Option.some.inj heq)
  dsimp only at hequals hline
  have := length_readName hname
  have := length_expect hequals
  have := length_skipSpaces afterName
  have := length_readValue hvalue
  have := length_skipSpaces afterEquals
  have := length_expect hline
  have := length_skipSpaces afterValue
  omega

/-- Reads fields up to the next table. -/
def readFields? (s : List Char) : Option (List Field × List Char) :=
  if s = [] ∨ s.head? = some '[' then some ([], s)
  else
    match h : readField? s with
    | none => none
    | some (field, rest) =>
      have : rest.length < s.length := length_readField h
      (readFields? rest).map fun (fields, rest) => (field :: fields, rest)
termination_by s.length

/-- No field is read at the end of the text or in front of a table. -/
theorem readFields?_of_end {s : List Char} (h : s = [] ∨ s.head? = some '[') :
    readFields? s = some ([], s) := by
  rw [readFields?, if_pos h]

/-- A field is read in front of the other fields. -/
theorem readFields?_of_field {s rest : List Char} {field : Field}
    (hstart : ¬ (s = [] ∨ s.head? = some '[')) (h : readField? s = some (field, rest)) :
    readFields? s = (readFields? rest).map fun (fields, rest) => (field :: fields, rest) := by
  rw [readFields?, if_neg hstart]
  split
  · next hnone =>
    rw [h] at hnone
    contradiction
  · next hsome =>
    rw [h] at hsome
    obtain ⟨rfl, rfl⟩ := Prod.mk.inj (Option.some.inj hsome)
    rfl

/-! ## Tables -/

/-- Reads the line that a table starts with. -/
def readHeader? (s : List Char) : Option (String × List Char) := do
  let (name, rest) ← readName? (← expect '[' (← expect '[' s))
  return (name, ← expect '\n' (← expect ']' (← expect ']' rest)))

/-- A header takes at least one character. -/
theorem length_readHeader {s rest : List Char} {name : String}
    (h : readHeader? s = some (name, rest)) : rest.length < s.length := by
  simp only [readHeader?, Option.bind_eq_bind, Option.bind_eq_some_iff, Option.pure_def] at h
  obtain ⟨first, hfirst, second, hsecond, ⟨_, afterName⟩, hname, third, hthird, fourth, hfourth,
    afterLine, hline, heq⟩ := h
  obtain ⟨_, rfl⟩ := Prod.mk.inj (Option.some.inj heq)
  dsimp only at hthird
  have := length_expect hfirst
  have := length_expect hsecond
  have := length_readName hname
  have := length_expect hthird
  have := length_expect hfourth
  have := length_expect hline
  omega

/-- Reading fields adds nothing. -/
theorem length_readFields {s rest : List Char} {fields : List Field}
    (h : readFields? s = some (fields, rest)) : rest.length ≤ s.length := by
  fun_induction readFields? s generalizing fields rest with
  | case1 => simp_all
  | case2 => contradiction
  | case3 s _ field next _ hlt ih =>
    obtain ⟨⟨_, _⟩, hread, heq⟩ := Option.map_eq_some_iff.mp h
    obtain ⟨_, rfl⟩ := Prod.mk.inj heq
    exact Nat.le_of_lt (Nat.lt_of_le_of_lt (ih hread) hlt)

/-- Reads tables up to the end. -/
def readTables? (s : List Char) : Option (List (String × List Field)) :=
  if s = [] then some []
  else
    match hheader : readHeader? s with
    | none => none
    | some (name, afterHeader) =>
      match hfields : readFields? afterHeader with
      | none => none
      | some (fields, rest) =>
        have : rest.length < s.length :=
          Nat.lt_of_le_of_lt (length_readFields hfields) (length_readHeader hheader)
        (readTables? rest).map ((name, fields) :: ·)
termination_by s.length

/-- A table is read in front of the other tables. -/
theorem readTables?_of_table {s afterHeader rest : List Char} {name : String}
    {fields : List Field} (hheader : readHeader? s = some (name, afterHeader))
    (hfields : readFields? afterHeader = some (fields, rest)) :
    readTables? s = (readTables? rest).map ((name, fields) :: ·) := by
  have hstart : s ≠ [] := by
    rintro rfl
    contradiction
  rw [readTables?, if_neg hstart]
  split
  · next hnone =>
    rw [hheader] at hnone
    contradiction
  · next hsome =>
    rw [hheader] at hsome
    obtain ⟨rfl, rfl⟩ := Prod.mk.inj (Option.some.inj hsome)
    split
    · next hnone =>
      rw [hfields] at hnone
      contradiction
    · next hsome =>
      rw [hfields] at hsome
      obtain ⟨rfl, rfl⟩ := Prod.mk.inj (Option.some.inj hsome)
      rfl

/-! ## Documents -/

/-- The fields before the first table and the tables of a text. -/
def readParts? (s : List Char) : Option (List Field × List (String × List Field)) := do
  let (settings, rest) ← readFields? s
  return (settings, ← readTables? rest)

/-- No name is given twice. -/
def HasDistinctNames (fields : List Field) : Prop := (fields.map Field.name).Nodup

instance (fields : List Field) : Decidable (HasDistinctNames fields) :=
  inferInstanceAs (Decidable (List.Nodup _))

/-- Every table has distinct names, and no setting is named like a table. -/
def HasUniqueNames (settings : List Field) (tables : List (String × List Field)) : Prop :=
  HasDistinctNames settings ∧
    ∀ table ∈ tables, HasDistinctNames table.2 ∧ table.1 ∉ settings.map Field.name

instance (settings : List Field) (tables : List (String × List Field)) :
    Decidable (HasUniqueNames settings tables) :=
  inferInstanceAs (Decidable (_ ∧ _))

/-- The peer with the given fields. -/
def peerOfFields? : List Field → Option Peer
  | [⟨"id_card", .number index⟩, ⟨"ip", .text host⟩, ⟨"port", .number port⟩] =>
    if port ≤ maxNat16 then some ⟨index, ⟨host, port.toUInt16⟩⟩ else none
  | _ => none

/-- The keygroup with the given fields, which are texts. -/
def keygroupOfFields? : List Field → Option Keygroup
  | [⟨"miner_public_key", .text minerKey⟩, ⟨"signer_public_key", .text signerKey⟩] =>
    some (.authority minerKey signerKey)
  | _ => none

/-- The tables with a name. -/
def tablesNamed (name : String) (tables : List (String × List Field)) : List (List Field) :=
  (tables.filter (·.1 = name)).map Prod.snd

/-- The document of a text. -/
def read? (text : String) : Option Document := do
  let (settings, tables) ← readParts? text.toList
  if HasUniqueNames settings tables ∧ ∀ table ∈ tables, table.1 ∈ [peersName, keygroupsName] then
    let peers ← (tablesNamed peersName tables).mapM peerOfFields?
    let keygroups ← (tablesNamed keygroupsName tables).mapM keygroupOfFields?
    return { settings, peers, keygroups }
  else none

end ClusterConfig.Document
