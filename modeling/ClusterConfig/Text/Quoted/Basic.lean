/-
# Quoted strings

Writing a text as a quoted string of TOML. There are four forms: between quotation marks or between
apostrophes, each on one line or between three of them over several lines. The plainest form that
holds the text without an escape is taken; where none does, quotation marks are used, with escapes.

Main statement: a text without line feed is written without one (`not_mem_encode`).
-/
import ClusterConfig.Text.Blank

namespace ClusterConfig.Text.Quoted

/-! ## The choice of a form -/

/-- The four ways of quoting a text. -/
inductive Form where
  /-- Between quotation marks, on one line, with escapes. -/
  | basic
  /-- Between apostrophes, on one line, without escapes. -/
  | literal
  /-- Between three quotation marks, over several lines, with escapes. -/
  | multilineBasic
  /-- Between three apostrophes, over several lines, without escapes. -/
  | multilineLiteral
  deriving DecidableEq, Repr

/-- A control character has to be escaped; tabulators and line feeds are none. -/
def isControl (c : Char) : Bool :=
  c.toNat < 0x20 && c != '\t' && c != '\n' || c.toNat == 0x7f

/-- The length of the longest run of a character, after a run of the given length. -/
def longestRun (q : Char) : Nat → List Char → Nat
  | run, [] => run
  | run, c :: rest => if c = q then longestRun q (run + 1) rest else max run (longestRun q 0 rest)

/-- The form in which a text is written. -/
def Form.choose (s : List Char) : Form :=
  let control := s.any isControl
  let backslash := s.contains '\\'
  let newline := s.contains '\n'
  if !control && !backslash && !s.contains '"' && !newline then .basic
  else if !control && !s.contains '\'' && !newline then .literal
  else if !control && !backslash && longestRun '"' 0 s ≤ 2 then .multilineBasic
  else if !control && longestRun '\'' 0 s ≤ 2 then .multilineLiteral
  else if newline then .multilineBasic
  else .basic

/-- What a quoted string begins and ends with. -/
def Form.delimiter : Form → List Char
  | .basic => ['"']
  | .literal => ['\'']
  | .multilineBasic => ['"', '"', '"']
  | .multilineLiteral => ['\'', '\'', '\'']

/-- A form that may hold line feeds. -/
def Form.isMultiline : Form → Bool
  | .multilineBasic | .multilineLiteral => true
  | .basic | .literal => false

/-! ## Escapes -/

/-- A hexadecimal digit, a capital letter from ten on. -/
def hexDigit (n : Nat) : Char :=
  if n < 10 then Char.ofNat ('0'.toNat + n) else Char.ofNat ('A'.toNat + (n - 10))

/-- The four hexadecimal digits of a number below 65536. -/
def hexDigits (n : Nat) : List Char :=
  [hexDigit (n / 4096 % 16), hexDigit (n / 256 % 16), hexDigit (n / 16 % 16), hexDigit (n % 16)]

/-- A character other than a quotation mark between quotation marks. -/
def escapeChar (c : Char) : List Char :=
  match c with
  | '\x08' => ['\\', 'b']
  | '\t' => ['\\', 't']
  | '\n' => ['\\', 'n']
  | '\x0c' => ['\\', 'f']
  | '\r' => ['\\', 'r']
  | '\\' => ['\\', '\\']
  | c => if isControl c then '\\' :: 'u' :: hexDigits c.toNat else [c]

/-- A text between single quotation marks. -/
def escape : List Char → List Char
  | [] => []
  | c :: rest => (if c = '"' then ['\\', '"'] else escapeChar c) ++ escape rest

/-- A text between three quotation marks, after a number of quotation marks that stand as they
are. The third one in a row is escaped. -/
def escapeMultiline : Nat → List Char → List Char
  | _, [] => []
  | quotes, c :: rest =>
    if c = '"' then
      if quotes < 2 then '"' :: escapeMultiline (quotes + 1) rest
      else '\\' :: '"' :: escapeMultiline 0 rest
    else (if c = '\n' then ['\n'] else escapeChar c) ++ escapeMultiline 0 rest

/-! ## Writing -/

/-- A text between the delimiters of a form. -/
def Form.body : Form → List Char → List Char
  | .basic, s => escape s
  | .multilineBasic, s => escapeMultiline 0 s
  | .literal, s | .multilineLiteral, s => s

/-- A text of several lines starts on a line of its own: a line feed right after the opening
delimiter belongs to the delimiter. -/
def Form.opening (form : Form) (s : List Char) : List Char :=
  form.delimiter ++ if form.isMultiline && s.contains '\n' then ['\n'] else []

/-- Writes a text as a quoted string. -/
def encode (s : List Char) : List Char :=
  let form := Form.choose s
  form.opening s ++ form.body s ++ form.delimiter

/-! ## Texts on one line -/

/-- No hexadecimal digit is a line feed. -/
theorem hexDigit_ne_newline {n : Nat} (h : n < 16) : hexDigit n ≠ '\n' :=
  (by decide : ∀ n < 16, hexDigit n ≠ '\n') n h

/-- An escape holds no line feed. -/
theorem not_mem_escapeChar (c : Char) : '\n' ∉ escapeChar c := by
  unfold escapeChar
  split
  iterate 6 decide
  split
  · simp [hexDigits, Ne.symm (hexDigit_ne_newline (Nat.mod_lt _ (by decide : 0 < 16)))]
  · next hnewline _ _ _ _ => exact fun hmem => hnewline (List.mem_singleton.mp hmem).symm

/-- A text between single quotation marks holds no line feed. -/
theorem not_mem_escape (s : List Char) : '\n' ∉ escape s := by
  induction s with
  | nil => simp [escape]
  | cons c rest ih =>
    rw [escape, List.mem_append, not_or]
    exact ⟨by split <;> simp [not_mem_escapeChar], ih⟩

/-- A text without line feed gets none between three quotation marks. -/
theorem not_mem_escapeMultiline (quotes : Nat) {s : List Char} (h : '\n' ∉ s) :
    '\n' ∉ escapeMultiline quotes s := by
  induction s generalizing quotes with
  | nil => simp [escapeMultiline]
  | cons c rest ih =>
    rw [List.mem_cons, not_or] at h
    rw [escapeMultiline, if_neg (Ne.symm h.1)]
    split
    · split <;> simp [ih _ h.2]
    · simp [ih _ h.2, not_mem_escapeChar]

/-- **A text without line feed is written without one.** -/
theorem not_mem_encode {s : List Char} (h : '\n' ∉ s) : '\n' ∉ encode s := by
  have hbody : ∀ form : Form, '\n' ∉ form.body s := by
    rintro (_ | _ | _ | _)
    · exact not_mem_escape s
    · exact h
    · exact not_mem_escapeMultiline 0 h
    · exact h
  have hdelimiter : ∀ form : Form, '\n' ∉ form.delimiter := by rintro (_ | _ | _ | _) <;> decide
  simp [encode, Form.opening, hbody, hdelimiter, h]

end ClusterConfig.Text.Quoted
