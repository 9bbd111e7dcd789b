/-
# Reading quoted strings

Reading a quoted string of TOML in any of its four forms from the beginning of a text. What
follows the closing delimiter is left over.

Control characters stand in no form as they are, except tabulators and, where a string may go
over several lines, line ends. A line end right after an opening of three delimiters is dropped,
and so are a backslash at the end of a line and the blanks up to the next character. Up to two
delimiters right before the closing three belong to the content.
-/
import ClusterConfig.Text.Quoted.Basic

namespace ClusterConfig.Text.Quoted

/-! ## Escapes -/

/-- The value of a hexadecimal digit. -/
def hexValue? (c : Char) : Option Nat :=
  if '0' ≤ c ∧ c ≤ '9' then some (c.toNat - '0'.toNat)
  else if 'A' ≤ c ∧ c ≤ 'F' then some (c.toNat - 'A'.toNat + 10)
  else if 'a' ≤ c ∧ c ≤ 'f' then some (c.toNat - 'a'.toNat + 10)
  else none

/-- The value of hexadecimal digits. -/
def hexNumber? (digits : List Char) : Option Nat :=
  digits.foldlM (fun n c => (hexValue? c).map (16 * n + ·)) 0

/-- The character with a code point, if there is one. -/
def scalar? (n : Nat) : Option Char :=
  if n.isValidChar then some (Char.ofNat n) else none

/-- Reads the character with a code point of some number of digits. -/
def readCodePoint (width : Nat) (s : List Char) : Option (Char × List Char) :=
  if s.length < width then none
  else do
    let n ← hexNumber? (s.take width)
    return (← scalar? n, s.drop width)

/-- Reads the character that is written after a backslash. -/
def readEscape : List Char → Option (Char × List Char)
  | 'b' :: rest => some ('\x08', rest)
  | 't' :: rest => some ('\t', rest)
  | 'n' :: rest => some ('\n', rest)
  | 'f' :: rest => some ('\x0c', rest)
  | 'r' :: rest => some ('\r', rest)
  | '"' :: rest => some ('"', rest)
  | '\\' :: rest => some ('\\', rest)
  | 'u' :: rest => readCodePoint 4 rest
  | 'U' :: rest => readCodePoint 8 rest
  | _ => none

/-- An escape takes at least one character. -/
theorem length_readEscape {s rest : List Char} {c : Char} (h : readEscape s = some (c, rest)) :
    rest.length < s.length := by
  have hcode : ∀ {width : Nat} {t : List Char}, readCodePoint width t = some (c, rest) →
      rest.length ≤ t.length := by
    intro width t ht
    unfold readCodePoint at ht
    split at ht
    · contradiction
    · simp only [Option.bind_eq_bind, Option.bind_eq_some_iff, Option.pure_def, Option.some.injEq,
        Prod.mk.injEq] at ht
      obtain ⟨_, _, _, _, _, rfl⟩ := ht
      simp
  unfold readEscape at h
  split at h
  case h_8 | h_9 => exact Nat.lt_succ_of_le (hcode h)
  all_goals grind

/-! ## Line ends -/

/-- Drops one line end from the beginning. -/
def dropNewline : List Char → List Char
  | '\n' :: rest => rest
  | '\r' :: '\n' :: rest => rest
  | s => s

/-- The blanks that stand within a line. -/
def isSpace (c : Char) : Bool := c = ' ' || c = '\t'

/-- Whether a line end comes next. -/
def startsWithNewline (s : List Char) : Bool := dropNewline s != s

/-- Skips blanks and line ends. -/
def skipLayout : List Char → List Char
  | [] => []
  | '\r' :: '\n' :: rest => skipLayout rest
  | c :: rest => if isSpace c || c = '\n' then skipLayout rest else c :: rest

/-- What follows a backslash that is the last character of its line but for blanks. -/
def skipLineEnd? (s : List Char) : Option (List Char) :=
  if startsWithNewline (s.dropWhile isSpace) then some (skipLayout (s.dropWhile isSpace)) else none

/-- Nothing is added where layout is skipped. -/
theorem length_skipLayout (s : List Char) : (skipLayout s).length ≤ s.length := by
  fun_induction skipLayout s <;> grind

/-- Nothing is added where the end of a line is skipped. -/
theorem length_skipLineEnd {s next : List Char} (h : skipLineEnd? s = some next) :
    next.length ≤ s.length := by
  rw [skipLineEnd?, Option.ite_none_right_eq_some] at h
  obtain rfl := Option.some.inj h.2
  exact Nat.le_trans (length_skipLayout _) (List.dropWhile_sublist _).length_le

/-! ## Contents -/

/-- A content and what is left over. -/
abbrev Content := List Char × List Char

/-- A character in front of a content. -/
def push (c : Char) : Content → Content
  | (content, rest) => (c :: content, rest)

/-- Reads up to a closing quotation mark. -/
def readBasic (s : List Char) : Option Content :=
  match s with
  | [] => none
  | '"' :: rest => some ([], rest)
  | '\\' :: rest =>
    match h : readEscape rest with
    | some (c, next) =>
      have : next.length < rest.length := length_readEscape h
      (readBasic next).map (push c)
    | none => none
  | c :: rest => if isControl c || c = '\n' then none else (readBasic rest).map (push c)
termination_by s.length

/-- A quotation mark closes the string. -/
theorem readBasic_quote (rest : List Char) : readBasic ('"' :: rest) = some ([], rest) := by
  rw [readBasic]

/-- An escape is one character of the content. -/
theorem readBasic_escaped {rest next : List Char} {c : Char}
    (h : readEscape rest = some (c, next)) :
    readBasic ('\\' :: rest) = (readBasic next).map (push c) := by
  rw [readBasic]
  split
  · next heq =>
    rw [h] at heq
    obtain ⟨rfl, rfl⟩ := Prod.mk.inj (Option.some.inj heq)
    rfl
  · next heq => simp [h] at heq

/-- Any other character but a control character or a line feed stands for itself. -/
theorem readBasic_plain {rest : List Char} {c : Char} (hquote : c ≠ '"') (hbackslash : c ≠ '\\')
    (hcontrol : isControl c = false) (hnewline : c ≠ '\n') :
    readBasic (c :: rest) = (readBasic rest).map (push c) := by
  rw [readBasic.eq_def]
  split
  case h_1 | h_2 | h_3 => simp_all
  case h_4 heq =>
    obtain ⟨rfl, rfl⟩ := List.cons.inj heq
    simp [hcontrol, hnewline]

/-- Reads up to a closing apostrophe. -/
def readLiteral : List Char → Option Content
  | [] => none
  | '\'' :: rest => some ([], rest)
  | c :: rest => if isControl c || c = '\n' then none else (readLiteral rest).map (push c)

/-- The end of a string of several lines, after three delimiters: one or two more of them mean
that as many of the first ones belong to the content. -/
def closeMultiline (q : Char) (s : List Char) : Content :=
  let extra := (s.take 2).takeWhile (· = q)
  (extra, s.drop extra.length)

/-- Reads up to three closing quotation marks. -/
def readMultilineBasic (s : List Char) : Option Content :=
  match s with
  | [] => none
  | '"' :: '"' :: '"' :: rest => some (closeMultiline '"' rest)
  | '\\' :: rest =>
    match hskip : skipLineEnd? rest with
    | some next =>
      have : next.length ≤ rest.length := length_skipLineEnd hskip
      readMultilineBasic next
    | none =>
      match h : readEscape rest with
      | some (c, next) =>
        have : next.length < rest.length := length_readEscape h
        (readMultilineBasic next).map (push c)
      | none => none
  | '\r' :: '\n' :: rest => ((readMultilineBasic rest).map (push '\n')).map (push '\r')
  | c :: rest => if isControl c then none else (readMultilineBasic rest).map (push c)
termination_by s.length

/-- Three quotation marks close the string. -/
theorem readMultilineBasic_quotes (rest : List Char) :
    readMultilineBasic ('"' :: '"' :: '"' :: rest) = some (closeMultiline '"' rest) := by
  rw [readMultilineBasic]

/-- An escape is one character of the content. -/
theorem readMultilineBasic_escaped {rest next : List Char} {c : Char}
    (hskip : skipLineEnd? rest = none) (h : readEscape rest = some (c, next)) :
    readMultilineBasic ('\\' :: rest) = (readMultilineBasic next).map (push c) := by
  rw [readMultilineBasic]
  split
  · next heq => simp [hskip] at heq
  · split
    · next heq =>
      rw [h] at heq
      obtain ⟨rfl, rfl⟩ := Prod.mk.inj (Option.some.inj heq)
      rfl
    · next heq => simp [h] at heq

/-- Any other character but a control character stands for itself, and so does a quotation mark
that is not the first of three. -/
theorem readMultilineBasic_plain {rest : List Char} {c : Char}
    (hquote : c = '"' → ∀ tail, rest ≠ '"' :: '"' :: tail) (hbackslash : c ≠ '\\')
    (hcontrol : isControl c = false) :
    readMultilineBasic (c :: rest) = (readMultilineBasic rest).map (push c) := by
  rw [readMultilineBasic.eq_def]
  split
  case h_1 | h_2 | h_3 => simp_all
  case h_4 heq =>
    obtain ⟨rfl, rfl⟩ := List.cons.inj heq
    exact absurd hcontrol (by decide)
  case h_5 heq =>
    obtain ⟨rfl, rfl⟩ := List.cons.inj heq
    simp [hcontrol]

/-- Reads up to three closing apostrophes. -/
def readMultilineLiteral : List Char → Option Content
  | [] => none
  | '\'' :: '\'' :: '\'' :: rest => some (closeMultiline '\'' rest)
  | '\r' :: '\n' :: rest => ((readMultilineLiteral rest).map (push '\n')).map (push '\r')
  | c :: rest => if isControl c then none else (readMultilineLiteral rest).map (push c)

/-- Three apostrophes close the string. -/
theorem readMultilineLiteral_quotes (rest : List Char) :
    readMultilineLiteral ('\'' :: '\'' :: '\'' :: rest) = some (closeMultiline '\'' rest) := rfl

/-- Any other character but a control character stands for itself, and so does an apostrophe
that is not the first of three. -/
theorem readMultilineLiteral_plain {rest : List Char} {c : Char}
    (hquote : c = '\'' → ∀ tail, rest ≠ '\'' :: '\'' :: tail) (hcontrol : isControl c = false) :
    readMultilineLiteral (c :: rest) = (readMultilineLiteral rest).map (push c) := by
  rw [readMultilineLiteral.eq_def]
  split
  case h_1 | h_2 => simp_all
  case h_3 heq =>
    obtain ⟨rfl, rfl⟩ := List.cons.inj heq
    exact absurd hcontrol (by decide)
  case h_4 heq =>
    obtain ⟨rfl, rfl⟩ := List.cons.inj heq
    simp [hcontrol]

/-! ## Quoted strings -/

/-- Reads a quoted string of any form. -/
def read? : List Char → Option Content
  | '"' :: '"' :: '"' :: rest => readMultilineBasic (dropNewline rest)
  | '"' :: rest => readBasic rest
  | '\'' :: '\'' :: '\'' :: rest => readMultilineLiteral (dropNewline rest)
  | '\'' :: rest => readLiteral rest
  | _ => none

/-- A quotation mark that is not the first of three opens a string on one line. -/
theorem read?_quote {rest : List Char} (h : ∀ tail, rest ≠ '"' :: '"' :: tail) :
    read? ('"' :: rest) = readBasic rest := by
  rw [read?.eq_2]
  simpa using h

/-- An apostrophe that is not the first of three opens a string on one line. -/
theorem read?_apostrophe {rest : List Char} (h : ∀ tail, rest ≠ '\'' :: '\'' :: tail) :
    read? ('\'' :: rest) = readLiteral rest := by
  rw [read?.eq_4]
  simpa using h

/-! ## Lengths -/

/-- What is pushed in front of a content leaves over as much. -/
theorem length_of_map_push {c : Char} {next : Option Content} {content rest : List Char} {n : Nat}
    (hnext : ∀ {content rest}, next = some (content, rest) → rest.length < n)
    (h : next.map (push c) = some (content, rest)) : rest.length < n := by
  obtain ⟨⟨_, _⟩, heq, hpush⟩ := Option.map_eq_some_iff.mp h
  obtain ⟨_, rfl⟩ := Prod.mk.inj hpush
  exact hnext heq

/-- The closing quotation mark at least is taken. -/
theorem length_readBasic {s content rest : List Char} (h : readBasic s = some (content, rest)) :
    rest.length < s.length := by
  fun_induction readBasic s generalizing content rest with
  | case1 => contradiction
  | case2 => grind
  | case3 tail c next hread hlt ih =>
    exact Nat.lt_succ_of_lt (Nat.lt_trans (length_of_map_push ih h) hlt)
  | case4 => contradiction
  | case5 => contradiction
  | case6 _ _ _ _ _ ih => exact Nat.lt_succ_of_lt (length_of_map_push ih h)

/-- The closing apostrophe at least is taken. -/
theorem length_readLiteral {s content rest : List Char} (h : readLiteral s = some (content, rest)) :
    rest.length < s.length := by
  fun_induction readLiteral s generalizing content rest with
  | case1 => contradiction
  | case2 => grind
  | case3 => contradiction
  | case4 _ _ _ _ ih => exact Nat.lt_succ_of_lt (length_of_map_push ih h)

/-- Nothing is added where a string is closed. -/
theorem length_closeMultiline {q : Char} {s content rest : List Char}
    (h : closeMultiline q s = (content, rest)) : rest.length ≤ s.length := by
  obtain ⟨_, rfl⟩ := Prod.mk.inj h
  simp

/-- The closing quotation marks at least are taken. -/
theorem length_readMultilineBasic {s content rest : List Char}
    (h : readMultilineBasic s = some (content, rest)) : rest.length < s.length := by
  fun_induction readMultilineBasic s generalizing content rest with
  | case1 => contradiction
  | case2 tail =>
    exact Nat.lt_of_le_of_lt (length_closeMultiline (Option.some.inj h)) (by simp; omega)
  | case3 tail next hskip hle ih => exact Nat.lt_succ_of_lt (Nat.lt_of_lt_of_le (ih h) hle)
  | case4 tail hskip c next hread hlt ih =>
    exact Nat.lt_succ_of_lt (Nat.lt_trans (length_of_map_push ih h) hlt)
  | case5 => contradiction
  | case6 _ ih =>
    have hrest := length_of_map_push (length_of_map_push ih) h
    exact Nat.lt_succ_of_lt (Nat.lt_succ_of_lt hrest)
  | case7 => contradiction
  | case8 _ _ _ _ _ _ ih => exact Nat.lt_succ_of_lt (length_of_map_push ih h)

/-- The closing apostrophes at least are taken. -/
theorem length_readMultilineLiteral {s content rest : List Char}
    (h : readMultilineLiteral s = some (content, rest)) : rest.length < s.length := by
  fun_induction readMultilineLiteral s generalizing content rest with
  | case1 => contradiction
  | case2 tail =>
    exact Nat.lt_of_le_of_lt (length_closeMultiline (Option.some.inj h)) (by simp; omega)
  | case3 _ ih =>
    have hrest := length_of_map_push (length_of_map_push ih) h
    exact Nat.lt_succ_of_lt (Nat.lt_succ_of_lt hrest)
  | case4 => contradiction
  | case5 _ _ _ _ _ ih => exact Nat.lt_succ_of_lt (length_of_map_push ih h)

/-- Dropping a line end adds nothing. -/
theorem length_dropNewline (s : List Char) : (dropNewline s).length ≤ s.length := by
  fun_cases dropNewline s <;> grind

/-- A quoted string takes at least one character. -/
theorem length_read {s content rest : List Char} (h : read? s = some (content, rest)) :
    rest.length < s.length := by
  unfold read? at h
  split at h
  case h_1 tail =>
    have := Nat.lt_of_lt_of_le (length_readMultilineBasic h) (length_dropNewline tail)
    exact Nat.lt_trans this (by simp; omega)
  case h_2 => exact Nat.lt_succ_of_lt (length_readBasic h)
  case h_3 tail =>
    have := Nat.lt_of_lt_of_le (length_readMultilineLiteral h) (length_dropNewline tail)
    exact Nat.lt_trans this (by simp; omega)
  case h_4 => exact Nat.lt_succ_of_lt (length_readLiteral h)
  case h_5 => contradiction

end ClusterConfig.Text.Quoted
