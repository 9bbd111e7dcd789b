/-
# Configurations in the grammar

What is written for a document lies in the grammar of TOML 1.0. Main statement: if every field, with
its name in front, makes a document that sets this name and nothing else, then all of them together
with the headers of their tables make one document, and it says what is to be said in the order in
which it is to be said (`isDocument_chars`).

Numbers up to the greatest integer of 64 bits and all texts make such fields. A literal is written
as it was read, so nothing can be said about it in general.
-/
import ClusterConfig.Proofs.Document.RoundTrip
import ClusterConfig.Proofs.Text.Numeral
import ClusterConfig.Proofs.Toml.Grammar

namespace ClusterConfig

open Text
open Toml (Digits IsDecimal IsDocument IsEnding IsInteger IsKey IsLine IsName IsString Spells)

/-! ## Numbers -/

namespace Toml

/-- A decimal digit counts for its value. -/
theorem hexValue?_of_isDigit {c : Char} (h : c.isDigit = true) :
    Quoted.hexValue? c = some (digitValue c) := by
  have hrange : '0' ≤ c ∧ c ≤ '9' := by
    simpa [Char.isDigit, Char.le_def] using h
  rw [Quoted.hexValue?, if_pos hrange]
  rfl

/-- The value of decimal digits is the number that they are the digits of. -/
theorem magnitude_of_isDigit {digits : List Char} (h : ∀ c ∈ digits, c.isDigit = true) :
    magnitude 10 digits = Nat.ofDigitChars 10 digits 0 := by
  have hvalues : digits.filterMap Quoted.hexValue? = digits.map digitValue := by
    induction digits with
    | nil => rfl
    | cons c digits ih =>
      rw [List.filterMap_cons_some (hexValue?_of_isDigit (h c List.mem_cons_self)), List.map_cons,
        ih fun d hd => h d (List.mem_cons_of_mem c hd)]
  rw [magnitude, hvalues, List.foldl_map, Nat.ofDigitChars_eq_foldl]
  rfl

/-- Digits without underscores are digits. -/
theorem digits_of_isDigits {digits : List Char} (h : IsDigits digits) :
    Digits Char.isDigit digits := by
  obtain ⟨hne, hdigit⟩ := h
  induction digits with
  | nil => exact absurd rfl hne
  | cons c digits ih =>
    have hc : c.isDigit = true := hdigit c List.mem_cons_self
    cases digits with
    | nil => exact .one hc
    | cons d digits =>
      exact .next hc
        (ih (List.cons_ne_nil d digits) fun e he => hdigit e (List.mem_cons_of_mem c he))

/-- A number is written without leading zeros. -/
theorem isDecimal_decimal (n : Nat) : IsDecimal (decimal n) := by
  refine ⟨digits_of_isDigits (isDigits_decimal n), fun hzero => ?_⟩
  rw [eq_zero_of_head?_decimal hzero]
  exact Nat.toDigits_zero 10

/-- A number is written as an integer when it is one of 64 bits. -/
theorem isInteger_decimal {n : Nat} (h : n ≤ maxInt64) : IsInteger (decimal n) := by
  have hvalue : magnitude 10 (decimal n) = n := by
    rw [magnitude_of_isDigit (isDigits_decimal n).isDigit, ofDigitChars_decimal]
  exact .nonneg (Or.inl rfl) (isDecimal_decimal n) (hvalue.symm ▸ h)

/-- A text is written as a quoted string that holds it. -/
theorem isString_encode (content : List Char) : IsString content (Quoted.encode content) :=
  Quoted.read?_encode_self content

end Toml

/-! ## Fields -/

/-- A field whose name and value make a document that sets the name and nothing else. -/
def Field.SetsName (field : Field) : Prop :=
  IsDocument [.setting [field.name]]
    (field.name.toList ++ [' ', '=', ' '] ++ field.value.chars)

/-- A bare name is a key. -/
theorem IsBareName.isKey {name : String} (h : IsBareName name) : IsKey [name] name.toList := by
  have hne : name.toList ≠ [] := by simpa using h.1
  exact .name (.bare hne (List.all_eq_true.mp h.2))

/-- A field with a bare name sets its name when its value is spelled as one. -/
theorem Field.setsName_of_spells {field : Field} (hname : IsBareName field.name)
    (hvalue : Spells .value field.value.chars) : field.SetsName := by
  have hblank : Toml.IsBlanks [' '] := List.forall_mem_singleton.mpr (by decide)
  have hsetting := IsLine.setting Toml.isBlanks_nil (.setting hname.isKey hblank hblank hvalue)
    (.blanks Toml.isBlanks_nil)
  have hdocument := IsDocument.line hsetting
  simpa [Field.SetsName] using hdocument

/-- A number sets its name when it is an integer of 64 bits. -/
theorem Field.setsName_number {name : String} {n : Nat} (hname : IsBareName name)
    (hle : n ≤ maxInt64) : Field.SetsName ⟨name, .number n⟩ :=
  Field.setsName_of_spells hname (.scalar (.integer (Toml.isInteger_decimal hle)))

/-- A text sets its name. -/
theorem Field.setsName_text {name : String} (hname : IsBareName name) (content : String) :
    Field.SetsName ⟨name, .text content⟩ :=
  Field.setsName_of_spells hname (.scalar (.string (Toml.isString_encode content.toList)))

/-- The fields of a peer set their names. -/
theorem Peer.setsName_fields {peer : Peer} (hle : peer.index ≤ maxInt64) :
    ∀ field ∈ peer.fields, field.SetsName := by
  have hport : peer.address.port.toNat ≤ maxInt64 :=
    Nat.le_trans (Nat.le_of_lt peer.address.port.toNat_lt) (by decide)
  simp only [Peer.fields, List.forall_mem_cons, List.not_mem_nil, false_implies, implies_true,
    and_true]
  exact ⟨Field.setsName_number (by decide) hle, Field.setsName_text (by decide) _,
    Field.setsName_number (by decide) hport⟩

/-- The fields of a keygroup without literals set their names. -/
theorem Keygroup.setsName_fields {keygroup : Keygroup} (h : keygroup.IsPlain) :
    ∀ field ∈ keygroup.fields, field.SetsName := by
  cases keygroup with
  | proof proofKey generator signerKey => exact h.elim
  | authority minerKey signerKey =>
    simp only [Keygroup.fields, List.forall_mem_cons, List.not_mem_nil, false_implies, implies_true,
      and_true]
    exact ⟨Field.setsName_text (by decide) _, Field.setsName_text (by decide) _⟩

/-! ## Documents -/

namespace Document

/-- What a document is to say: its settings, and its tables with their fields. -/
def outline (document : Document) : Toml.Outline where
  keys := document.settings.map fun field => [field.name]
  members := document.tables.map fun (name, fields) => (name, fields.map fun field => [field.name])

variable {more : List Toml.Expression} {rest : List Char}

/-- Fields that set their names make a document in front of one. -/
theorem isDocument_fields {fields : List Field} (h : ∀ field ∈ fields, field.SetsName)
    (hrest : IsDocument more rest) :
    IsDocument (fields.map (fun field => .setting [field.name]) ++ more)
      (fields.flatMap Field.chars ++ rest) := by
  induction fields with
  | nil => exact hrest
  | cons field fields ih =>
    obtain ⟨hfield, hfields⟩ := List.forall_mem_cons.mp h
    have hdocument := IsDocument.append hfield (ih hfields)
    simpa [Field.chars] using hdocument

/-- A table whose fields set their names makes a document in front of one. -/
theorem isDocument_table {name : String} {fields : List Field} (hname : IsBareName name)
    (h : ∀ field ∈ fields, field.SetsName) (hrest : IsDocument more rest) :
    IsDocument (.member [name] :: fields.map (fun field => .setting [field.name]) ++ more)
      (tableChars name fields ++ rest) := by
  have hheader := IsDocument.line (.member Toml.isBlanks_nil Toml.isBlanks_nil hname.isKey
    Toml.isBlanks_nil (.blanks Toml.isBlanks_nil))
  have hdocument := hheader.append (isDocument_fields h hrest)
  simpa [tableChars, headerChars] using hdocument

/-- Tables whose fields set their names make a document. -/
theorem isDocument_tables {tables : List (String × List Field)}
    (h : ∀ table ∈ tables, IsBareName table.1 ∧ ∀ field ∈ table.2, field.SetsName) :
    IsDocument
      (tables.flatMap fun (name, fields) =>
        .member [name] :: fields.map fun field => .setting [field.name])
      (tables.flatMap fun (name, fields) => tableChars name fields) := by
  induction tables with
  | nil => exact Toml.isDocument_nil
  | cons table tables ih =>
    obtain ⟨⟨hname, hfields⟩, htables⟩ := List.forall_mem_cons.mp h
    exact isDocument_table hname hfields (ih htables)

/-- **A document whose fields set their names lies in the grammar**, and it says what it is to
say. -/
theorem isDocument_chars {document : Document}
    (hsettings : ∀ field ∈ document.settings, field.SetsName)
    (htables : ∀ table ∈ document.tables, ∀ field ∈ table.2, field.SetsName) :
    IsDocument document.outline.expressions document.chars := by
  have hnames : ∀ table ∈ document.tables, IsBareName table.1 := by
    apply forall_mem_tables
    · exact fun peer _ => (by decide : IsBareName peersName)
    · exact fun keygroup _ => (by decide : IsBareName keygroupsName)
  have hdocument := isDocument_fields hsettings
    (isDocument_tables fun table hmem => ⟨hnames table hmem, htables table hmem⟩)
  simpa [outline, Toml.Outline.expressions, chars, List.flatMap_map, Function.comp_def]
    using hdocument

end Document

end ClusterConfig
