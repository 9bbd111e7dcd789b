/-
# Documents read back

A document without literals is read back from its text. Main statement: whatever its texts hold,
reading the text of such a document gives the document (`read_render_eq_some`).

The reader is followed production by production. Each lemma reads what was written in front of a
rest that is left over, and asks of the rest only that it does not continue what was written: a
value ends at its line feed, and the fields of a table end at a bracket or at the end of the text.
So a text that spans several lines, or that looks like a header, stays inside its quotes.
-/
import ClusterConfig.Document.Reader
import ClusterConfig.Text.Quoted.RoundTrip

namespace ClusterConfig

open Text

/-! ## Documents without literals -/

/-- A name that stands in a document without quotes. -/
def IsBareName (name : String) : Prop :=
  name ≠ "" ∧ name.toList.all Document.isNameChar = true

instance (name : String) : Decidable (IsBareName name) :=
  inferInstanceAs (Decidable (_ ∧ _))

/-- A value that is not a literal: its notation is fixed by what it is. -/
def Value.IsPlain : Value → Prop
  | .number _ | .text _ => True
  | .literal _ => False

instance : DecidablePred Value.IsPlain
  | .number _ | .text _ => inferInstanceAs (Decidable True)
  | .literal _ => inferInstanceAs (Decidable False)

/-- A keygroup without literals: a signer key paired with a miner key. -/
def Keygroup.IsPlain : Keygroup → Prop
  | .authority _ _ => True
  | .proof _ _ _ => False

instance : DecidablePred Keygroup.IsPlain
  | .authority _ _ => inferInstanceAs (Decidable True)
  | .proof _ _ _ => inferInstanceAs (Decidable False)

/-- A field with a bare name and without a literal. -/
structure Field.IsPlain (field : Field) : Prop where
  bareName : IsBareName field.name
  plainValue : field.value.IsPlain

/-- A document without literals, whose settings have distinct bare names other than those of its
tables. -/
structure Document.IsPlain (document : Document) : Prop where
  plainSettings : ∀ field ∈ document.settings, field.IsPlain
  distinctNames : HasDistinctNames document.settings
  noTableName : ∀ field ∈ document.settings, field.name ∉ [peersName, keygroupsName]
  plainKeygroups : ∀ keygroup ∈ document.keygroups, keygroup.IsPlain

namespace Document

/-! ## Runs of characters -/

/-- A run of a class ends where the rest begins outside of it. -/
theorem takeWhile_append_of_stop {p : Char → Bool} {s rest : List Char}
    (hs : ∀ c ∈ s, p c = true) (hrest : ∀ c ∈ rest.head?, p c = false) :
    (s ++ rest).takeWhile p = s := by
  rw [List.takeWhile_append_of_pos hs]
  cases rest with
  | nil => simp
  | cons c rest => simp [hrest c rfl]

/-- What is left of a run of a class is the rest that begins outside of it. -/
theorem dropWhile_append_of_stop {p : Char → Bool} {s rest : List Char}
    (hs : ∀ c ∈ s, p c = true) (hrest : ∀ c ∈ rest.head?, p c = false) :
    (s ++ rest).dropWhile p = rest := by
  rw [List.dropWhile_append_of_pos hs]
  cases rest with
  | nil => rfl
  | cons c rest => simp [hrest c rfl]

/-! ## Values -/

/-- A number is read back in front of anything but a digit. -/
theorem readNumber?_decimal (n : Nat) {rest : List Char}
    (hrest : ∀ c ∈ rest.head?, c.isDigit = false) :
    readNumber? (decimal n ++ rest) = some (n, rest) := by
  have hdigits : ∀ c ∈ decimal n, c.isDigit = true := fun c hc => isDigit_of_mem_decimal hc
  have hleading : ¬ (decimal n = [] ∨ (decimal n).head? = some '0' ∧ decimal n ≠ ['0']) := by
    rintro (hnil | ⟨hzero, hne⟩)
    · exact decimal_ne_nil n hnil
    · obtain rfl := eq_zero_of_head?_decimal hzero
      exact hne (Nat.toDigits_zero 10)
  rw [readNumber?, takeWhile_append_of_stop hdigits hrest, dropWhile_append_of_stop hdigits hrest,
    if_neg hleading, ofDigitChars_decimal]

/-- A quoted string starts with one of the two quotes. -/
theorem head?_encode (s : List Char) :
    (Quoted.encode s).head? = some '"' ∨ (Quoted.encode s).head? = some '\'' := by
  rw [Quoted.encode, Quoted.Form.opening]
  cases Quoted.Form.choose s with
  | basic | multilineBasic => exact Or.inl rfl
  | literal | multilineLiteral => exact Or.inr rfl

/-- A plain value starts with a digit or with a quote. -/
theorem head?_chars {value : Value} (h : value.IsPlain) :
    ∃ c, value.chars.head? = some c ∧ (c.isDigit = true ∨ c = '"' ∨ c = '\'') := by
  cases value with
  | number n =>
    obtain ⟨c, tail, hc, hdigit⟩ := decimal_eq_cons n
    exact ⟨c, by rw [Value.chars, hc, List.head?_cons], Or.inl hdigit⟩
  | text content =>
    rcases head?_encode content.toList with h | h
    · exact ⟨'"', h, Or.inr (Or.inl rfl)⟩
    · exact ⟨'\'', h, Or.inr (Or.inr rfl)⟩
  | literal source => exact h.elim

/-- A plain value is read back in front of its line feed. -/
theorem readValue?_chars {value : Value} (h : value.IsPlain) (rest : List Char) :
    readValue? (value.chars ++ '\n' :: rest) = some (value, '\n' :: rest) := by
  cases value with
  | number n =>
    obtain ⟨c, hhead, -⟩ := head?_chars h
    have hdigit : c.isDigit = true :=
      isDigit_of_mem_decimal (List.mem_of_head? (show (decimal n).head? = some c from hhead))
    -- A digit is no quote, so the reader does not take the number for a string.
    have hquote : ¬ ((decimal n ++ '\n' :: rest).head? = some '"' ∨
        (decimal n ++ '\n' :: rest).head? = some '\'') := by
      rw [List.head?_append, show (decimal n).head? = some c from hhead, Option.some_or]
      rintro (heq | heq)
      · obtain rfl := Option.some.inj heq
        exact absurd hdigit (by decide)
      · obtain rfl := Option.some.inj heq
        exact absurd hdigit (by decide)
    rw [Value.chars, readValue?, if_neg hquote, readNumber?_decimal n (by simp)]
    rfl
  | text content =>
    have hquote : (Quoted.encode content.toList ++ '\n' :: rest).head? = some '"' ∨
        (Quoted.encode content.toList ++ '\n' :: rest).head? = some '\'' := by
      rw [List.head?_append]
      rcases head?_encode content.toList with hhead | hhead
      · exact Or.inl (by rw [hhead, Option.some_or])
      · exact Or.inr (by rw [hhead, Option.some_or])
    rw [Value.chars, readValue?, if_pos hquote, Quoted.read?_encode _ (by simp) (by simp)]
    simp
  | literal source => exact h.elim

/-! ## Fields -/

/-- A bare name is read back in front of anything that does not continue it. -/
theorem readName?_append {name : String} (h : IsBareName name) {rest : List Char}
    (hrest : ∀ c ∈ rest.head?, isNameChar c = false) :
    readName? (name.toList ++ rest) = some (name, rest) := by
  have hne : ¬ name.toList = [] := by
    intro hnil
    exact h.1 (String.toList_eq_nil_iff.mp hnil)
  have hchars : ∀ c ∈ name.toList, isNameChar c = true := List.all_eq_true.mp h.2
  rw [readName?, takeWhile_append_of_stop hchars hrest, dropWhile_append_of_stop hchars hrest,
    if_neg hne, String.ofList_toList]

/-- No blanks are skipped in front of a plain value. -/
theorem skipSpaces_chars {value : Value} (h : value.IsPlain) (rest : List Char) :
    skipSpaces (' ' :: (value.chars ++ rest)) = value.chars ++ rest := by
  obtain ⟨c, hhead, hc⟩ := head?_chars h
  obtain ⟨tail, htail⟩ := List.head?_eq_some_iff.mp hhead
  have hspace : Quoted.isSpace c = false := by
    rcases hc with hdigit | rfl | rfl
    · rw [Quoted.isSpace, Bool.or_eq_false_iff, decide_eq_false_iff_not, decide_eq_false_iff_not]
      constructor
      · rintro rfl
        exact absurd hdigit (by decide)
      · rintro rfl
        exact absurd hdigit (by decide)
    · decide
    · decide
  rw [skipSpaces, List.dropWhile_cons_of_pos (by decide), htail, List.cons_append,
    List.dropWhile_cons_of_neg (by simp [hspace])]

/-- A plain field is read back in front of any rest. -/
theorem readField?_chars {field : Field} (h : field.IsPlain) (rest : List Char) :
    readField? (field.chars ++ rest) = some (field, rest) := by
  have hchars : field.chars ++ rest =
      field.name.toList ++ ' ' :: '=' :: ' ' :: (field.value.chars ++ '\n' :: rest) := by
    simp [Field.chars]
  have hname : readName? (field.name.toList ++ ' ' :: '=' :: ' ' ::
      (field.value.chars ++ '\n' :: rest)) = some (field.name, ' ' :: '=' :: ' ' ::
      (field.value.chars ++ '\n' :: rest)) := by
    apply readName?_append h.bareName
    intro c hc
    obtain rfl := Option.some.inj hc
    decide
  have hequals : ∀ s, expect '=' (skipSpaces (' ' :: '=' :: s)) = some s := fun s => rfl
  have hline : expect '\n' (skipSpaces ('\n' :: rest)) = some rest := rfl
  simp [readField?, hchars, hname, hequals, skipSpaces_chars h.plainValue,
    readValue?_chars h.plainValue, hline]

/-! ## Tables -/

/-- The fields of a table end at the end of the text or at the next table. -/
def AtTableEnd (rest : List Char) : Prop := rest = [] ∨ rest.head? = some '['

/-- A plain field is no end of a table. -/
theorem not_atTableEnd_chars {field : Field} (h : field.IsPlain) (rest : List Char) :
    ¬ AtTableEnd (field.chars ++ rest) := by
  obtain ⟨c, tail, hc⟩ := List.exists_cons_of_ne_nil
    (fun hnil => h.bareName.1 (String.toList_eq_nil_iff.mp hnil))
  have hname : isNameChar c = true := by
    apply List.all_eq_true.mp h.bareName.2
    rw [hc]
    exact List.mem_cons_self
  rw [Field.chars, hc]
  rintro (hnil | hhead)
  · exact List.cons_ne_nil _ _ hnil
  · obtain rfl := Option.some.inj hhead
    exact absurd hname (by decide)

/-- Plain fields are read back up to the end of their table. -/
theorem readFields?_flatMap {fields : List Field} (h : ∀ field ∈ fields, field.IsPlain)
    {rest : List Char} (hrest : AtTableEnd rest) :
    readFields? (fields.flatMap Field.chars ++ rest) = some (fields, rest) := by
  -- The rest is the same at every field: it is only met after the last one.
  induction fields with
  | nil => exact readFields?_of_end hrest
  | cons field fields ih =>
    have hfield : field.IsPlain := h field List.mem_cons_self
    have hmore : ∀ next ∈ fields, next.IsPlain :=
      fun next hmem => h next (List.mem_cons_of_mem _ hmem)
    rw [List.flatMap_cons, List.append_assoc, readFields?_of_field
      (not_atTableEnd_chars hfield _) (readField?_chars hfield _), ih hmore]
    rfl

/-- The line that a table starts with is read back. -/
theorem readHeader?_headerChars {name : String} (h : IsBareName name) (rest : List Char) :
    readHeader? (headerChars name ++ rest) = some (name, rest) := by
  have hheader : headerChars name ++ rest =
      '[' :: '[' :: (name.toList ++ ']' :: ']' :: '\n' :: rest) := by
    simp [headerChars]
  have hname : readName? (name.toList ++ ']' :: ']' :: '\n' :: rest) =
      some (name, ']' :: ']' :: '\n' :: rest) := by
    apply readName?_append h
    intro c hc
    obtain rfl := Option.some.inj hc
    decide
  simp [readHeader?, hheader, expect, hname]

/-- A table with a bare name and plain fields. -/
def IsPlainTable (table : String × List Field) : Prop :=
  IsBareName table.1 ∧ ∀ field ∈ table.2, field.IsPlain

/-- The text of tables begins with a bracket, if there are any. -/
theorem atTableEnd_flatMap (tables : List (String × List Field)) :
    AtTableEnd (tables.flatMap fun (name, fields) => tableChars name fields) := by
  cases tables with
  | nil => exact Or.inl rfl
  | cons table tables => exact Or.inr rfl

/-- Plain tables are read back. -/
theorem readTables?_flatMap {tables : List (String × List Field)}
    (h : ∀ table ∈ tables, IsPlainTable table) :
    readTables? (tables.flatMap fun (name, fields) => tableChars name fields) = some tables := by
  induction tables with
  | nil =>
    rw [List.flatMap_nil, readTables?, if_pos rfl]
  | cons table tables ih =>
    obtain ⟨hname, hfields⟩ := h table List.mem_cons_self
    -- What stands after a table is the next one, so its fields end where they should.
    have hread := readFields?_flatMap hfields (atTableEnd_flatMap tables)
    have hmore : ∀ next ∈ tables, IsPlainTable next :=
      fun next hmem => h next (List.mem_cons_of_mem _ hmem)
    rw [List.flatMap_cons]
    show readTables? ((headerChars table.1 ++ _) ++ _) = _
    rw [List.append_assoc, readTables?_of_table (readHeader?_headerChars hname _) hread, ih hmore]
    rfl

/-! ## Documents -/

/-- The fields of a peer are plain. -/
theorem isPlain_of_mem_peer (peer : Peer) : ∀ field ∈ peer.fields, field.IsPlain := by
  intro field hmem
  simp only [Peer.fields, List.mem_cons, List.not_mem_nil, or_false] at hmem
  rcases hmem with rfl | rfl | rfl
  · exact ⟨(by decide : IsBareName "id_card"), trivial⟩
  · exact ⟨(by decide : IsBareName "ip"), trivial⟩
  · exact ⟨(by decide : IsBareName "port"), trivial⟩

/-- The fields of a plain keygroup are plain. -/
theorem isPlain_of_mem_keygroup {keygroup : Keygroup} (h : keygroup.IsPlain) :
    ∀ field ∈ keygroup.fields, field.IsPlain := by
  cases keygroup with
  | authority minerKey signerKey =>
    intro field hmem
    simp only [Keygroup.fields, List.mem_cons, List.not_mem_nil, or_false] at hmem
    rcases hmem with rfl | rfl
    · exact ⟨(by decide : IsBareName "miner_public_key"), trivial⟩
    · exact ⟨(by decide : IsBareName "signer_public_key"), trivial⟩
  | proof proofKey generator signerKey => exact h.elim

/-- A property of the tables of a document is one of the tables of its peers and of those of its
keygroups. -/
theorem forall_mem_tables {document : Document} {motive : String × List Field → Prop}
    (hpeers : ∀ peer ∈ document.peers, motive (peersName, peer.fields))
    (hkeygroups : ∀ keygroup ∈ document.keygroups, motive (keygroupsName, keygroup.fields)) :
    ∀ table ∈ document.tables, motive table := by
  intro table hmem
  rw [tables, List.mem_append, List.mem_map, List.mem_map] at hmem
  rcases hmem with ⟨peer, hpeer, rfl⟩ | ⟨keygroup, hkeygroup, rfl⟩
  · exact hpeers peer hpeer
  · exact hkeygroups keygroup hkeygroup

/-- The settings and tables of a plain document are read back from its text. -/
theorem readParts?_chars {document : Document} (h : document.IsPlain) :
    readParts? document.chars = some (document.settings, document.tables) := by
  have htables : ∀ table ∈ document.tables, IsPlainTable table := by
    apply forall_mem_tables
    · intro peer hpeer
      exact ⟨(by decide : IsBareName peersName), isPlain_of_mem_peer peer⟩
    · intro keygroup hkeygroup
      exact ⟨(by decide : IsBareName keygroupsName),
        isPlain_of_mem_keygroup (h.plainKeygroups keygroup hkeygroup)⟩
  rw [readParts?, chars, readFields?_flatMap h.plainSettings (atTableEnd_flatMap document.tables)]
  simp [readTables?_flatMap htables]

/-- The names of a plain document are unique. -/
theorem hasUniqueNames_of_isPlain {document : Document} (h : document.IsPlain) :
    HasUniqueNames document.settings document.tables := by
  have hname : ∀ name ∈ [peersName, keygroupsName],
      name ∉ document.settings.map Field.name := by
    intro name hname hmem
    obtain ⟨field, hfield, rfl⟩ := List.mem_map.mp hmem
    exact h.noTableName field hfield hname
  refine ⟨h.distinctNames, forall_mem_tables ?_ ?_⟩
  · intro peer hpeer
    exact ⟨by simp [HasDistinctNames, Peer.fields], hname _ (by simp)⟩
  · intro keygroup hkeygroup
    refine ⟨?_, hname _ (by simp)⟩
    cases keygroup with
    | authority minerKey signerKey => simp [HasDistinctNames, Keygroup.fields]
    | proof proofKey generator signerKey => exact (h.plainKeygroups _ hkeygroup).elim

/-- Tables that all have the name are all found. -/
theorem tablesNamed_map_self {α : Type} (name : String) (fields : α → List Field) (l : List α) :
    tablesNamed name (l.map fun a => (name, fields a)) = l.map fields := by
  induction l with
  | nil => rfl
  | cons a l ih =>
    rw [tablesNamed] at ih
    simp [tablesNamed, ih]

/-- Tables that all have another name are not found. -/
theorem tablesNamed_map_of_ne {α : Type} {name other : String} (h : other ≠ name)
    (fields : α → List Field) (l : List α) :
    tablesNamed name (l.map fun a => (other, fields a)) = [] := by
  rw [tablesNamed, List.filter_eq_nil_iff.mpr, List.map_nil]
  intro table hmem
  obtain ⟨a, -, rfl⟩ := List.mem_map.mp hmem
  simpa using h

/-- The tables with a name in two parts of a document are those of one part and of the other. -/
theorem tablesNamed_append (name : String) (first second : List (String × List Field)) :
    tablesNamed name (first ++ second) = tablesNamed name first ++ tablesNamed name second := by
  rw [tablesNamed, List.filter_append, List.map_append]
  rfl

/-- The tables named for peers are those of the peers. -/
theorem tablesNamed_peersName (document : Document) :
    tablesNamed peersName document.tables = document.peers.map Peer.fields := by
  rw [tables, tablesNamed_append, tablesNamed_map_self, tablesNamed_map_of_ne (by decide),
    List.append_nil]

/-- The tables named for keygroups are those of the keygroups. -/
theorem tablesNamed_keygroupsName (document : Document) :
    tablesNamed keygroupsName document.tables = document.keygroups.map Keygroup.fields := by
  rw [tables, tablesNamed_append, tablesNamed_map_of_ne (by decide), tablesNamed_map_self,
    List.nil_append]

/-- A peer is found again in its fields. -/
theorem peerOfFields?_fields (peer : Peer) : peerOfFields? peer.fields = some peer := by
  have hport : peer.address.port.toNat ≤ maxNat16 := Nat.le_of_lt_succ peer.address.port.toNat_lt
  simp [Peer.fields, peerOfFields?, hport]

/-- A plain keygroup is found again in its fields. -/
theorem keygroupOfFields?_fields {keygroup : Keygroup} (h : keygroup.IsPlain) :
    keygroupOfFields? keygroup.fields = some keygroup := by
  cases keygroup with
  | authority minerKey signerKey => rfl
  | proof proofKey generator signerKey => exact h.elim

/-- Members that are found again one by one are found again as a list. -/
theorem mapM_map_eq_some {α β : Type} {write : α → β} {read : β → Option α} {l : List α}
    (h : ∀ a ∈ l, read (write a) = some a) : (l.map write).mapM read = some l := by
  induction l with
  | nil => rfl
  | cons a l ih =>
    have hmore := ih fun b hb => h b (List.mem_cons_of_mem a hb)
    simp [h a List.mem_cons_self, hmore]

/-- A plain document is read back from its text. -/
theorem read?_render {document : Document} (h : document.IsPlain) :
    read? document.render = some document := by
  have hpeers : (document.peers.map Peer.fields).mapM peerOfFields? = some document.peers :=
    mapM_map_eq_some fun peer _ => peerOfFields?_fields peer
  have hkeygroups : (document.keygroups.map Keygroup.fields).mapM keygroupOfFields? =
      some document.keygroups :=
    mapM_map_eq_some fun keygroup hmem => keygroupOfFields?_fields (h.plainKeygroups keygroup hmem)
  have hknown : ∀ table ∈ document.tables, table.1 ∈ [peersName, keygroupsName] :=
    forall_mem_tables (fun peer _ => by simp) (fun keygroup _ => by simp)
  simp only [read?, render, String.toList_ofList, readParts?_chars h, Option.bind_eq_bind,
    Option.bind_some]
  rw [if_pos ⟨hasUniqueNames_of_isPlain h, hknown⟩, tablesNamed_peersName,
    tablesNamed_keygroupsName, hpeers, hkeygroups]
  rfl

/-- **Nothing is lost in writing.** A document whose settings have distinct bare names other than
those of its tables, and which holds no literals, is read back from its text, whatever its texts
hold. -/
theorem read_render_eq_some {document : Document}
    (hnames : ∀ field ∈ document.settings,
      IsBareName field.name ∧ field.name ∉ [peersName, keygroupsName])
    (hdistinct : (document.settings.map Field.name).Nodup)
    (hvalues : ∀ field ∈ document.settings, field.value.IsPlain)
    (hkeygroups : ∀ keygroup ∈ document.keygroups, keygroup.IsPlain) :
    read? document.render = some document := by
  apply read?_render
  constructor
  case plainSettings => exact fun field hmem => ⟨(hnames field hmem).1, hvalues field hmem⟩
  case distinctNames => exact hdistinct
  case noTableName => exact fun field hmem => (hnames field hmem).2
  case plainKeygroups => exact hkeygroups

/-- A document whose texts look like tables and hold quotes of both kinds, a backslash, control
characters and every kind of line end. -/
def hostile : Document where
  settings := [⟨"id_card", .number 18446744073709551615⟩,
    ⟨"note", .text "'''\n[[peers]]\r\nid_card = 7\n\"\"\"\"\\"⟩, ⟨"empty", .text ""⟩]
  peers := [⟨7, ⟨"\n[[keygroups]]", 65535⟩⟩]
  keygroups := [.authority "\x00\x7f\r" "'\"'\"\"\"", .authority "[[peers]]" "\\\""]

/-- The hostile document is read back. -/
theorem read_render_hostile :
    (∀ field ∈ hostile.settings,
      IsBareName field.name ∧ field.name ∉ [peersName, keygroupsName]) ∧
    (hostile.settings.map Field.name).Nodup ∧
    (∀ field ∈ hostile.settings, field.value.IsPlain) ∧
    (∀ keygroup ∈ hostile.keygroups, keygroup.IsPlain) ∧
    read? hostile.render = some hostile :=
  ⟨by decide, by decide, by decide, by decide,
    read_render_eq_some (by decide) (by decide) (by decide) (by decide)⟩

end Document

end ClusterConfig
