/-
# The lines of a document

A document is written field by field, and a field takes one line when its value does: a text without
line feed is quoted without one, and a literal loses the end of the line it was read from.

Main statement: the text of a document whose values take one line each is cut into one line for
every field and one for the header of every table, in the order of the document, so that a header
can be told from the values, whatever these hold (`Document.lines_render`).
-/
import Mathlib.Algebra.GroupWithZero.Nat
import Mathlib.Data.List.Basic
import Mathlib.Data.List.Count
import ClusterConfig.Document.Basic
import ClusterConfig.Proofs.Document.Values

namespace ClusterConfig

open Text

/-! ## Lines -/

/-- The line of a field, without its line feed. -/
def Field.line (field : Field) : List Char :=
  field.name.toList ++ [' ', '=', ' '] ++ field.value.chars

/-- An equals sign tells the line of a field from the header of a table. -/
theorem Field.equals_mem_line (field : Field) : '=' ∈ field.line := by
  simp [Field.line]

/-- The lines of a peer: a header, and a line for each of its fields. -/
def Peer.lines (peer : Peer) : List (List Char) :=
  ["[[peers]]".toList, "id_card = ".toList ++ decimal peer.index,
    "ip = ".toList ++ Quoted.encode peer.address.host.toList,
    "port = ".toList ++ decimal peer.address.port.toNat]

/-- The lines of a peer are its header and the lines of its fields. -/
theorem Peer.lines_eq_cons (peer : Peer) :
    peer.lines = "[[peers]]".toList :: peer.fields.map Field.line := by
  simp [Peer.lines, Peer.fields, Field.line, Value.chars]

/-- The lines of a keygroup: a header, and a line for each of its fields. -/
def Keygroup.lines (keygroup : Keygroup) : List (List Char) :=
  "[[keygroups]]".toList :: keygroup.fields.map Field.line

/-- Fields are their lines. -/
theorem flatMap_fieldChars (fields : List Field) :
    fields.flatMap Field.chars = (fields.map Field.line).flatMap (· ++ ['\n']) := by
  rw [List.flatMap_map]
  rfl

namespace Document

/-- A table is its header and the lines of its fields. -/
theorem tableChars_eq_flatMap (name : String) (fields : List Field) :
    tableChars name fields =
      ((['[', '['] ++ name.toList ++ [']', ']']) :: fields.map Field.line).flatMap
        (· ++ ['\n']) := by
  rw [List.flatMap_cons, tableChars, flatMap_fieldChars, headerChars]
  simp

/-- The lines of a document. -/
def lineTexts (document : Document) : List (List Char) :=
  document.settings.map Field.line ++ document.peers.flatMap Peer.lines ++
    document.keygroups.flatMap Keygroup.lines

/-- A document is written line by line. -/
theorem chars_eq_flatMap (document : Document) :
    document.chars = document.lineTexts.flatMap (· ++ ['\n']) := by
  have hpeer (peer : Peer) :
      tableChars peersName peer.fields = peer.lines.flatMap (· ++ ['\n']) := by
    rw [tableChars_eq_flatMap, Peer.lines_eq_cons]
    rfl
  have hkeygroup (keygroup : Keygroup) :
      tableChars keygroupsName keygroup.fields = keygroup.lines.flatMap (· ++ ['\n']) := by
    rw [tableChars_eq_flatMap]
    rfl
  simp only [chars, tables, lineTexts, List.flatMap_append, List.flatMap_map, List.flatMap_assoc,
    flatMap_fieldChars, hpeer, hkeygroup, List.append_assoc]

/-! ## What stands on a line -/

/-- A header is not among the lines of fields. -/
theorem count_map_line {header : List Char} (h : '=' ∉ header) (fields : List Field) :
    (fields.map Field.line).count header = 0 := by
  apply List.count_eq_zero_of_not_mem
  rw [List.mem_map]
  rintro ⟨field, -, rfl⟩
  exact h field.equals_mem_line

/-- A header stands once in a table that it starts, and in no other table. -/
theorem count_table {header : List Char} (h : '=' ∉ header) (start : List Char)
    (fields : List Field) :
    (start :: fields.map Field.line).count header = if start = header then 1 else 0 := by
  rw [List.count_cons, count_map_line h, Nat.zero_add]
  simp only [beq_iff_eq]

/-- Parts that each hold something the same number of times hold it as often together. -/
theorem count_flatMap_of_forall {α β : Type} [BEq β] {l : List α} {f : α → List β} {b : β} {n : Nat}
    (h : ∀ a ∈ l, (f a).count b = n) : (l.flatMap f).count b = l.length * n := by
  have hmap : l.map (List.count b ∘ f) = List.replicate l.length n :=
    List.map_eq_replicate_iff.mpr h
  rw [List.count_flatMap, hmap, List.sum_replicate_nat]

/-- A header stands in a document as often as a table starts with it. -/
theorem count_lineTexts {header : List Char} (h : '=' ∉ header) (document : Document) :
    document.lineTexts.count header =
      document.peers.length * (if "[[peers]]".toList = header then 1 else 0) +
        document.keygroups.length * (if "[[keygroups]]".toList = header then 1 else 0) := by
  have hpeers : ∀ peer ∈ document.peers,
      peer.lines.count header = if "[[peers]]".toList = header then 1 else 0 := by
    intro peer _
    rw [peer.lines_eq_cons, count_table h]
  have hkeygroups : ∀ keygroup ∈ document.keygroups,
      keygroup.lines.count header = if "[[keygroups]]".toList = header then 1 else 0 :=
    fun _ _ => count_table h _ _
  -- The settings stand in no table, so no header is among their lines.
  rw [lineTexts, List.count_append, List.count_append, count_map_line h,
    count_flatMap_of_forall hpeers, count_flatMap_of_forall hkeygroups, Nat.zero_add]

/-- A document has a line for each setting, four for each peer, and one more than its fields for
each keygroup. -/
theorem length_lineTexts (document : Document) :
    document.lineTexts.length = document.settings.length + 4 * document.peers.length +
      (document.keygroups.map fun keygroup => 1 + keygroup.fields.length).sum := by
  have hpeers : (document.peers.map fun peer => peer.lines.length).sum =
      4 * document.peers.length := by
    have hpeer : ∀ peer ∈ document.peers, peer.lines.length = 4 := fun _ _ => rfl
    rw [List.map_eq_replicate_iff.mpr hpeer, List.sum_replicate_nat, Nat.mul_comm]
  have hkeygroup (keygroup : Keygroup) : keygroup.lines.length = 1 + keygroup.fields.length := by
    rw [Keygroup.lines, List.length_cons, List.length_map, Nat.add_comm]
  simp only [lineTexts, List.length_append, List.length_map, List.length_flatMap, hpeers,
    hkeygroup]

/-! ## Documents of lines -/

/-- All fields of a document, in the order in which they are written. -/
def fields (document : Document) : List Field :=
  document.settings ++ document.peers.flatMap Peer.fields ++
    document.keygroups.flatMap Keygroup.fields

/-- A line that is not blank: no line feed stands on it, but something else than blanks does. -/
structure IsFullLine (line : List Char) : Prop where
  noLineFeed : '\n' ∉ line
  notBlank : ∃ c ∈ line, isBlank c = false

/-- A field with a value that takes one line stands on a line. -/
theorem isFullLine_of_isOneLine {field : Field} (hname : '\n' ∉ field.name.toList)
    (hvalue : field.value.IsOneLine) : IsFullLine field.line := by
  refine ⟨?_, '=', field.equals_mem_line, by decide⟩
  simp [Field.line, hname, hvalue.not_mem_chars]

/-- A document each of whose values takes one line. -/
structure TakesLines (document : Document) : Prop where
  settings : ∀ field ∈ document.settings, '\n' ∉ field.name.toList ∧ field.value.IsOneLine
  hosts : ∀ peer ∈ document.peers, '\n' ∉ peer.address.host.toList
  keygroups : ∀ keygroup ∈ document.keygroups, ∀ field ∈ keygroup.fields, field.value.IsOneLine

/-- The fields of a peer take one line each when its host does. -/
theorem isOneLine_of_mem_peer {peer : Peer} (h : '\n' ∉ peer.address.host.toList) :
    ∀ field ∈ peer.fields, '\n' ∉ field.name.toList ∧ field.value.IsOneLine := by
  simp [Peer.fields, Value.IsOneLine, h]

/-- All values of a document that takes lines take one line each. -/
theorem TakesLines.isOneLine {document : Document} (h : document.TakesLines) {field : Field}
    (hfield : field ∈ document.fields) : field.value.IsOneLine := by
  rw [fields, List.mem_append, List.mem_append, List.mem_flatMap, List.mem_flatMap] at hfield
  rcases hfield with (hfield | ⟨peer, hpeer, hfield⟩) | ⟨keygroup, hkeygroup, hfield⟩
  · exact (h.settings field hfield).2
  · exact (isOneLine_of_mem_peer (h.hosts peer hpeer) field hfield).2
  · exact h.keygroups keygroup hkeygroup field hfield

/-- The fields of a peer stand on lines when its host does. -/
theorem isFullLine_of_mem_peer {peer : Peer} (h : '\n' ∉ peer.address.host.toList)
    {line : List Char} (hline : line ∈ peer.lines) : IsFullLine line := by
  rw [peer.lines_eq_cons, List.mem_cons, List.mem_map] at hline
  rcases hline with rfl | ⟨field, hfield, rfl⟩
  · exact ⟨by decide, '[', by decide, by decide⟩
  · obtain ⟨hname, hvalue⟩ := isOneLine_of_mem_peer h field hfield
    exact isFullLine_of_isOneLine hname hvalue

/-- The fields of a keygroup stand on lines when its keys do. -/
theorem isFullLine_of_mem_keygroup {keygroup : Keygroup}
    (h : ∀ field ∈ keygroup.fields, field.value.IsOneLine) {line : List Char}
    (hline : line ∈ keygroup.lines) : IsFullLine line := by
  rw [Keygroup.lines, List.mem_cons, List.mem_map] at hline
  rcases hline with rfl | ⟨field, hfield, rfl⟩
  · exact ⟨by decide, '[', by decide, by decide⟩
  · have hnames : ∀ field ∈ keygroup.fields, '\n' ∉ field.name.toList := by
      cases keygroup <;> simp [Keygroup.fields]
    exact isFullLine_of_isOneLine (hnames field hfield) (h field hfield)

/-- Every line of a document stands on a line. -/
theorem isFullLine_of_mem_lineTexts {document : Document} (h : document.TakesLines)
    {line : List Char} (hline : line ∈ document.lineTexts) : IsFullLine line := by
  rw [lineTexts, List.mem_append, List.mem_append, List.mem_map, List.mem_flatMap,
    List.mem_flatMap] at hline
  rcases hline with (⟨field, hfield, rfl⟩ | ⟨peer, hpeer, hline⟩) | ⟨keygroup, hkeygroup, hline⟩
  · obtain ⟨hname, hvalue⟩ := h.settings field hfield
    exact isFullLine_of_isOneLine hname hvalue
  · exact isFullLine_of_mem_peer (h.hosts peer hpeer) hline
  · exact isFullLine_of_mem_keygroup (h.keygroups keygroup hkeygroup) hline

/-- **A document has one line for each field, and none is forged.** Its text is cut into the lines
that were written, none of them blank, and a line that equals the header of a table is one, whatever
the values hold. On the line of a field stands its name and a text that spells its value, and a
literal takes the same line with either end of the line it was read from. -/
theorem lines_render (document : Document) (h : document.TakesLines) :
    document.render.toList = document.lineTexts.flatMap (· ++ ['\n']) ∧
    lines document.render.toList = document.lineTexts.map (· ++ ['\n']) ∧
    (∀ line ∈ document.lineTexts, IsFullLine line) ∧
    (∀ field ∈ document.fields, ∃ shown,
      field.line = field.name.toList ++ [' ', '=', ' '] ++ shown ∧ field.value.Spells shown) ∧
    document.lineTexts.length = document.settings.length + 4 * document.peers.length +
      (document.keygroups.map fun keygroup => 1 + keygroup.fields.length).sum ∧
    (lines document.render.toList).count "[[peers]]\n".toList = document.peers.length ∧
    (lines document.render.toList).count "[[keygroups]]\n".toList = document.keygroups.length ∧
    ∀ (name : String) (source : List Char) (lineEnd : LineEnd), source.getLast? ≠ some '\n' →
      Field.chars ⟨name, .literal (String.ofList (source ++ lineEnd.chars))⟩ =
        Field.chars ⟨name, .literal (String.ofList source)⟩ := by
  have hrender : document.render.toList = document.lineTexts.flatMap (· ++ ['\n']) := by
    rw [render, String.toList_ofList, chars_eq_flatMap]
  have hlines : lines document.render.toList = document.lineTexts.map (· ++ ['\n']) := by
    rw [hrender]
    exact lines_flatMap_lineFeed fun line hline => (isFullLine_of_mem_lineTexts h hline).noLineFeed
  have hcount (header : List Char) : (lines document.render.toList).count (header ++ ['\n']) =
      document.lineTexts.count header := by
    -- Cutting the text gives the lines back, each with its line feed.
    rw [hlines]
    exact List.count_map_of_injective _ _ (List.append_left_injective ['\n']) header
  refine ⟨hrender, hlines, fun line => isFullLine_of_mem_lineTexts h, ?_, length_lineTexts document,
    ?_, ?_, ?_⟩
  · intro field hfield
    exact ⟨field.value.chars, rfl, Value.spells_chars (h.isOneLine hfield)⟩
  · have hheader : "[[peers]]\n".toList = "[[peers]]".toList ++ ['\n'] := by decide
    rw [hheader, hcount, count_lineTexts (by decide)]
    simp
  · have hheader : "[[keygroups]]\n".toList = "[[keygroups]]".toList ++ ['\n'] := by decide
    rw [hheader, hcount, count_lineTexts (by decide)]
    simp
  · intro name source lineEnd hlast
    simp only [Field.chars, Value.chars, String.toList_ofList,
      literalChars_append_lineEnd hlast lineEnd]

/-- A document whose values look like headers and hold quotes of both kinds, a backslash, a tab and
carriage returns. Its literals were read with either end of a line and without one. -/
def lookalikes : Document where
  settings := [⟨"id_card", .number 0⟩, ⟨"signer_private_key", .text "'\"[[peers]]\"'\\\t\r"⟩,
    ⟨"proof_private_key", .literal "[[keygroups]]\r\n"⟩]
  peers := [⟨1, "[[peers]]", 80⟩, ⟨2, "", 0⟩]
  keygroups := [.proof "[[peers]]\n" "[[keygroups]]" "'", .authority "[[keygroups]]" "\""]

/-- The lookalikes are written on eighteen lines, and two of these are the headers of peers. The
last setting is the same without the end of the line that its literal was read from. -/
theorem lines_lookalikes :
    lookalikes.TakesLines ∧
    lookalikes.lineTexts.length = 18 ∧
    lookalikes.lineTexts.take 7 =
      ["id_card = 0".toList,
        "signer_private_key = \"'\\\"[[peers]]\\\"'\\\\\\t\\r\"".toList,
        "proof_private_key = [[keygroups]]".toList, "[[peers]]".toList, "id_card = 1".toList,
        "ip = \"[[peers]]\"".toList, "port = 80".toList] ∧
    (Value.literal "[[keygroups]]\r\n").Spells "[[keygroups]]".toList ∧
    (lines lookalikes.render.toList).count "[[peers]]\n".toList = 2 ∧
    (lines lookalikes.render.toList).count "[[keygroups]]\n".toList = 2 ∧
    Field.chars ⟨"proof_private_key", .literal "[[keygroups]]\r\n"⟩ =
      Field.chars ⟨"proof_private_key", .literal "[[keygroups]]"⟩ := by
  have htakes : lookalikes.TakesLines := ⟨by decide, by decide, by decide⟩
  obtain ⟨-, -, -, hspelled, hlength, hpeers, hkeygroups, hliteral⟩ :=
    lines_render lookalikes htakes
  obtain ⟨shown, hline, hspells⟩ :=
    hspelled ⟨"proof_private_key", .literal "[[keygroups]]\r\n"⟩ (by decide)
  obtain rfl : "[[keygroups]]".toList = shown := List.append_cancel_left hline
  exact ⟨htakes, hlength, by decide +kernel, hspells, hpeers, hkeygroups,
    hliteral "proof_private_key" "[[keygroups]]".toList .returnLineFeed (by decide)⟩

end Document

end ClusterConfig
