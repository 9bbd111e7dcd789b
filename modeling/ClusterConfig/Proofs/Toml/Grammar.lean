/-
# The grammar of TOML 1.0

Which texts are documents. A document consists of lines: settings, headers of tables, headers of
members of arrays of tables, and lines with nothing but a comment. A value is a scalar, an array or
an inline table; only arrays and strings go over several lines.

A relation is given for every production. Integers are those of 64 bits, with a sign. Quoted strings
are those that the reader of quoted strings reads to their end.

Main statement: two documents, the one below the other, are one document (`IsDocument.append`).
-/
import ClusterConfig.Document.Reader

namespace ClusterConfig.Toml

open Text

/-! ## Blanks and comments -/

/-- Blanks within a line. -/
def IsBlanks (s : List Char) : Prop := ∀ c ∈ s, Quoted.isSpace c = true

/-- Nothing counts as blanks. -/
theorem isBlanks_nil : IsBlanks [] := fun _ hc => absurd hc List.not_mem_nil

/-- The end of a line. -/
def IsNewline (s : List Char) : Prop := s = ['\n'] ∨ s = ['\r', '\n']

/-- A comment, up to the end of its line. Tabulators are the only control characters in it. -/
def IsComment (s : List Char) : Prop :=
  ∃ text, s = '#' :: text ∧ ∀ c ∈ text, Quoted.isControl c = false ∧ c ≠ '\n'

/-- What may stand after a setting or a header. -/
inductive IsEnding : List Char → Prop
  | blanks {blanks : List Char} (hblanks : IsBlanks blanks) : IsEnding blanks
  | comment {blanks comment : List Char} (hblanks : IsBlanks blanks)
    (hcomment : IsComment comment) : IsEnding (blanks ++ comment)

/-- What may stand between the values of an array: blanks, ends of lines and comments. -/
inductive IsLayout : List Char → Prop
  | nil : IsLayout []
  | blank {c : Char} {s : List Char} (hc : Quoted.isSpace c = true) (hs : IsLayout s) :
    IsLayout (c :: s)
  | newline {newline s : List Char} (hnewline : IsNewline newline) (hs : IsLayout s) :
    IsLayout (newline ++ s)
  | comment {comment newline s : List Char} (hcomment : IsComment comment)
    (hnewline : IsNewline newline) (hs : IsLayout s) : IsLayout (comment ++ newline ++ s)

/-! ## Numbers -/

/-- Digits of some kind, with underscores between them or without. -/
inductive Digits (digit : Char → Bool) : List Char → Prop
  | one {c : Char} (hc : digit c = true) : Digits digit [c]
  | next {c : Char} {s : List Char} (hc : digit c = true) (hs : Digits digit s) :
    Digits digit (c :: s)
  | apart {c : Char} {s : List Char} (hc : digit c = true) (hs : Digits digit s) :
    Digits digit (c :: '_' :: s)

/-- The value of digits. Underscores do not count. -/
def magnitude (base : Nat) (digits : List Char) : Nat :=
  (digits.filterMap Quoted.hexValue?).foldl (fun n digit => base * n + digit) 0

/-- A natural number without leading zeros. -/
structure IsDecimal (digits : List Char) : Prop where
  isDigits : Digits Char.isDigit digits
  noLeadingZero : digits.head? = some '0' → digits = ['0']

/-- A sign or none. -/
def IsSign (s : List Char) : Prop := s = [] ∨ s = ['+'] ∨ s = ['-']

/-- The bases other than ten, with their marks. -/
def bases : List (Char × Nat) := [('x', 16), ('o', 8), ('b', 2)]

/-- The integers of 64 bits. -/
inductive IsInteger : List Char → Prop
  | nonneg {sign digits : List Char} (hsign : sign = [] ∨ sign = ['+']) (hdigits : IsDecimal digits)
    (hle : magnitude 10 digits ≤ maxInt64) : IsInteger (sign ++ digits)
  | neg {digits : List Char} (hdigits : IsDecimal digits)
    (hle : magnitude 10 digits ≤ negMinInt64) : IsInteger ('-' :: digits)
  | based {mark : Char} {base : Nat} {digits : List Char} (hbase : (mark, base) ∈ bases)
    (hdigits : Digits (fun c => (Quoted.hexValue? c).any (· < base)) digits)
    (hle : magnitude base digits ≤ maxInt64) : IsInteger ('0' :: mark :: digits)

/-- The digits after a point. -/
def IsFraction (s : List Char) : Prop := ∃ digits, s = '.' :: digits ∧ Digits Char.isDigit digits

/-- The exponent of a floating point number. -/
def IsExponent (s : List Char) : Prop :=
  ∃ mark sign digits, s = mark :: (sign ++ digits) ∧ (mark = 'e' ∨ mark = 'E') ∧ IsSign sign ∧
    Digits Char.isDigit digits

/-- The floating point numbers. -/
inductive IsFloat : List Char → Prop
  | fraction {sign whole fraction : List Char} (hsign : IsSign sign) (hwhole : IsDecimal whole)
    (hfraction : IsFraction fraction) : IsFloat (sign ++ whole ++ fraction)
  | exponent {sign whole exponent : List Char} (hsign : IsSign sign) (hwhole : IsDecimal whole)
    (hexponent : IsExponent exponent) : IsFloat (sign ++ whole ++ exponent)
  | both {sign whole fraction exponent : List Char} (hsign : IsSign sign) (hwhole : IsDecimal whole)
    (hfraction : IsFraction fraction) (hexponent : IsExponent exponent) :
    IsFloat (sign ++ whole ++ fraction ++ exponent)
  | special {sign word : List Char} (hsign : IsSign sign)
    (hword : word = ['i', 'n', 'f'] ∨ word = ['n', 'a', 'n']) : IsFloat (sign ++ word)

/-! ## Dates and times -/

/-- A number of a fixed width between two bounds. -/
structure IsNumeral (width least greatest : Nat) (s : List Char) : Prop where
  length_eq : s.length = width
  areDigits : ∀ c ∈ s, c.isDigit = true
  le : least ≤ magnitude 10 s
  ge : magnitude 10 s ≤ greatest

/-- The number of days of a month. -/
def daysOf (year month : Nat) : Nat :=
  if month = 2 then if year % 4 = 0 ∧ (year % 100 ≠ 0 ∨ year % 400 = 0) then 29 else 28
  else if month ∈ [4, 6, 9, 11] then 30 else 31

/-- A day. -/
inductive IsDate : List Char → Prop
  | mk {year month day : List Char} (hyear : IsNumeral 4 0 9999 year)
    (hmonth : IsNumeral 2 1 12 month)
    (hday : IsNumeral 2 1 (daysOf (magnitude 10 year) (magnitude 10 month)) day) :
    IsDate (year ++ '-' :: month ++ '-' :: day)

/-- An hour and a minute. -/
inductive IsClock : List Char → Prop
  | mk {hour minute : List Char} (hhour : IsNumeral 2 0 23 hour)
    (hminute : IsNumeral 2 0 59 minute) : IsClock (hour ++ ':' :: minute)

/-- A time of the day, up to a leap second. -/
inductive IsTime : List Char → Prop
  | seconds {clock second : List Char} (hclock : IsClock clock)
    (hsecond : IsNumeral 2 0 60 second) : IsTime (clock ++ ':' :: second)
  | fraction {clock second digits : List Char} (hclock : IsClock clock)
    (hsecond : IsNumeral 2 0 60 second) (hne : digits ≠ [])
    (hdigits : ∀ c ∈ digits, c.isDigit = true) :
    IsTime (clock ++ ':' :: second ++ '.' :: digits)

/-- The distance from universal time. -/
inductive IsOffset : List Char → Prop
  | universal {c : Char} (hc : c = 'Z' ∨ c = 'z') : IsOffset [c]
  | signed {sign : Char} {clock : List Char} (hsign : sign = '+' ∨ sign = '-')
    (hclock : IsClock clock) : IsOffset (sign :: clock)

/-- A day, a time, or both, with an offset or without. -/
inductive IsDateTime : List Char → Prop
  | date {date : List Char} (hdate : IsDate date) : IsDateTime date
  | time {time : List Char} (htime : IsTime time) : IsDateTime time
  | dateTime {date time : List Char} {mark : Char} (hdate : IsDate date)
    (hmark : mark = 'T' ∨ mark = 't' ∨ mark = ' ') (htime : IsTime time) :
    IsDateTime (date ++ mark :: time)
  | offset {date time offset : List Char} {mark : Char} (hdate : IsDate date)
    (hmark : mark = 'T' ∨ mark = 't' ∨ mark = ' ') (htime : IsTime time)
    (hoffset : IsOffset offset) : IsDateTime (date ++ mark :: time ++ offset)

/-! ## Keys -/

/-- A quoted string of any form. -/
def IsString (content s : List Char) : Prop := Quoted.read? s = some (content, [])

/-- The name of a setting or of a table: bare, or quoted on one line. -/
inductive IsName : String → List Char → Prop
  | bare {name : String} (hne : name.toList ≠ [])
    (hchars : ∀ c ∈ name.toList, Document.isNameChar c = true) : IsName name name.toList
  | quoted {name : String} {s : List Char} (hstring : IsString name.toList s)
    (hline : ¬['"', '"', '"'] <+: s ∧ ¬['\'', '\'', '\''] <+: s) : IsName name s

/-- A key: names with points between them. -/
inductive IsKey : List String → List Char → Prop
  | name {name : String} {s : List Char} (hname : IsName name s) : IsKey [name] s
  | dotted {name : String} {key : List String} {s before after t : List Char}
    (hname : IsName name s) (hbefore : IsBlanks before) (hafter : IsBlanks after)
    (hkey : IsKey key t) :
    IsKey (name :: key) (s ++ before ++ '.' :: after ++ t)

/-- Keys that stand for different settings, none of which lies within another. -/
def ArePrefixFree (keys : List (List String)) : Prop :=
  keys.Pairwise fun key other => ¬key <+: other ∧ ¬other <+: key

instance : DecidablePred ArePrefixFree := fun keys =>
  inferInstanceAs (Decidable (keys.Pairwise fun key other => ¬key <+: other ∧ ¬other <+: key))

/-! ## Values -/

/-- A value that holds no other values. -/
inductive IsScalar : List Char → Prop
  | string {content s : List Char} (h : IsString content s) : IsScalar s
  | boolean {s : List Char} (h : s = "true".toList ∨ s = "false".toList) : IsScalar s
  | integer {s : List Char} (h : IsInteger s) : IsScalar s
  | float {s : List Char} (h : IsFloat s) : IsScalar s
  | dateTime {s : List Char} (h : IsDateTime s) : IsScalar s

/-- What values are made of. -/
inductive Part where
  | value
  /-- A key and its value. -/
  | setting (key : List String)
  /-- The values of an array. -/
  | values
  /-- The settings of an inline table. -/
  | settings (keys : List (List String))

/-- How the parts of values are spelled. -/
inductive Spells : Part → List Char → Prop
  | scalar {s : List Char} (h : IsScalar s) : Spells .value s
  | array {s : List Char} (h : Spells .values s) : Spells .value ('[' :: s ++ [']'])
  | table {keys : List (List String)} {s : List Char} (h : Spells (.settings keys) s)
    (hkeys : ArePrefixFree keys) : Spells .value ('\x7b' :: s ++ ['\x7d'])
  | setting {key : List String} {k before after v : List Char} (hkey : IsKey key k)
    (hbefore : IsBlanks before) (hafter : IsBlanks after) (hvalue : Spells .value v) :
    Spells (.setting key) (k ++ before ++ '=' :: after ++ v)
  /-- No value, also after the last comma. -/
  | noValue {layout : List Char} (hlayout : IsLayout layout) : Spells .values layout
  | lastValue {before v after : List Char} (hbefore : IsLayout before) (hvalue : Spells .value v)
    (hafter : IsLayout after) : Spells .values (before ++ v ++ after)
  | nextValue {before v after rest : List Char} (hbefore : IsLayout before)
    (hvalue : Spells .value v) (hafter : IsLayout after) (hrest : Spells .values rest) :
    Spells .values (before ++ v ++ after ++ ',' :: rest)
  | noSetting {blanks : List Char} (hblanks : IsBlanks blanks) : Spells (.settings []) blanks
  | lastSetting {key : List String} {before s after : List Char} (hbefore : IsBlanks before)
    (hsetting : Spells (.setting key) s) (hafter : IsBlanks after) :
    Spells (.settings [key]) (before ++ s ++ after)
  | nextSetting {key other : List String} {keys : List (List String)}
    {before s after rest : List Char} (hbefore : IsBlanks before)
    (hsetting : Spells (.setting key) s) (hafter : IsBlanks after)
    (hrest : Spells (.settings (other :: keys)) rest) :
    Spells (.settings (key :: other :: keys)) (before ++ s ++ after ++ ',' :: rest)

/-! ## Documents -/

/-- What is said on a line. -/
inductive Expression where
  | setting (key : List String)
  /-- The header of a table. -/
  | table (key : List String)
  /-- The header of a member of an array of tables. -/
  | member (key : List String)
  deriving DecidableEq, Repr

/-- How a line is spelled, without its end. -/
inductive IsLine : Option Expression → List Char → Prop
  | nothing {ending : List Char} (hending : IsEnding ending) : IsLine none ending
  | setting {key : List String} {blanks s ending : List Char} (hblanks : IsBlanks blanks)
    (hsetting : Spells (.setting key) s) (hending : IsEnding ending) :
    IsLine (some (.setting key)) (blanks ++ s ++ ending)
  | table {key : List String} {blanks before k after ending : List Char} (hblanks : IsBlanks blanks)
    (hbefore : IsBlanks before) (hkey : IsKey key k) (hafter : IsBlanks after)
    (hending : IsEnding ending) :
    IsLine (some (.table key)) (blanks ++ '[' :: before ++ k ++ after ++ ']' :: ending)
  | member {key : List String} {blanks before k after ending : List Char}
    (hblanks : IsBlanks blanks) (hbefore : IsBlanks before) (hkey : IsKey key k)
    (hafter : IsBlanks after) (hending : IsEnding ending) :
    IsLine (some (.member key))
      (blanks ++ '[' :: '[' :: before ++ k ++ after ++ ']' :: ']' :: ending)

/-- The documents, each with what is said on its lines. -/
inductive IsDocument : List Expression → List Char → Prop
  | line {expression : Option Expression} {s : List Char} (h : IsLine expression s) :
    IsDocument expression.toList s
  | lines {expression : Option Expression} {expressions : List Expression}
    {s newline rest : List Char} (h : IsLine expression s) (hnewline : IsNewline newline)
    (hrest : IsDocument expressions rest) :
    IsDocument (expression.toList ++ expressions) (s ++ newline ++ rest)

/-- **A document below another one makes one document of both.** -/
theorem IsDocument.append {expressions more : List Expression} {s rest : List Char}
    (h : IsDocument expressions s) (hrest : IsDocument more rest) :
    IsDocument (expressions ++ more) (s ++ '\n' :: rest) := by
  have hnewline : IsNewline ['\n'] := Or.inl rfl
  induction h with
  | line h =>
    have hlines := IsDocument.lines h hnewline hrest
    rwa [List.append_assoc] at hlines
  | lines h hend _ ih =>
    have hlines := IsDocument.lines h hend ih
    rwa [← List.append_assoc, ← List.append_assoc] at hlines

/-- The empty document. -/
theorem isDocument_nil : IsDocument [] [] := .line (.nothing (.blanks isBlanks_nil))

/-! ## Well-formed documents -/

/-- What a document says as a whole: its settings, and the members of its arrays of tables with
their settings. -/
structure Outline where
  keys : List (List String)
  members : List (String × List (List String))
  deriving DecidableEq, Repr

namespace Outline

/-- What is said on the lines of a document with an outline. -/
def expressions (outline : Outline) : List Expression :=
  outline.keys.map .setting ++
    outline.members.flatMap fun (name, keys) => .member [name] :: keys.map .setting

/-- Nothing is set twice, and no setting is also an array of tables. -/
structure IsConsistent (outline : Outline) : Prop where
  keys : ArePrefixFree outline.keys
  members : ∀ member ∈ outline.members, ArePrefixFree member.2
  apart : ∀ member ∈ outline.members, ∀ key ∈ outline.keys, key.head? ≠ some member.1

end Outline

/-- A well-formed document with an outline. -/
structure IsWellFormed (outline : Outline) (text : List Char) : Prop where
  isDocument : IsDocument outline.expressions text
  isConsistent : outline.IsConsistent

end ClusterConfig.Toml
