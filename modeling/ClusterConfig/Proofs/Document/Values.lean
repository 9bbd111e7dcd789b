/-
# What values are written as

A value stands on the line of its field as a text that tells it: a number as its digits, a text in
quotes, and a literal as it was read, without the end of its line. Main statement: what is written
for a value that takes one line is spelled as one of its kind (`Value.spells_chars`).

A text is quoted in the plainest way that holds it. Where it can stand between quotation marks or
between apostrophes as it is, it does; otherwise it is told by what is read back.
-/
import ClusterConfig.Document.Field
import ClusterConfig.Proofs.Text.LineEndings
import ClusterConfig.Proofs.Text.Numeral
import ClusterConfig.Text.Quoted.RoundTrip

namespace ClusterConfig

open Text

/-! ## Literals -/

/-- A literal loses one line feed and then carriage returns. -/
theorem literalChars_eq (source : List Char) :
    Value.literalChars source = (dropLineFeed source).rdropWhile (· = '\r') :=
  dropEndWhile_eq (· = '\r') (dropLineFeed source)

/-- **A literal is written without the terminator of its line.** One line feed is cut off before the
carriage returns, but a line has no other line feed. -/
theorem literalChars_eq_dropTerminator {line : List Char} (h : '\n' ∉ line.dropLast) :
    Value.literalChars line = dropTerminator line :=
  dropReturns_dropLineFeed h

/-- A literal is written in the same way with either end of its line and without one. -/
theorem literalChars_append_lineEnd {s : List Char} (h : s.getLast? ≠ some '\n')
    (lineEnd : LineEnd) : Value.literalChars (s ++ lineEnd.chars) = Value.literalChars s := by
  have hplain : Value.literalChars s = s.rdropWhile (· = '\r') := by
    rw [literalChars_eq, dropLineFeed, if_neg h]
  rw [hplain]
  cases lineEnd with
  | lineFeed => simp [literalChars_eq, dropLineFeed, LineEnd.chars]
  | returnLineFeed =>
    have hcut : dropLineFeed (s ++ ['\r', '\n']) = s ++ ['\r'] := by
      rw [show s ++ ['\r', '\n'] = (s ++ ['\r']) ++ ['\n'] by simp]
      simp [dropLineFeed]
    rw [literalChars_eq, LineEnd.chars, hcut]
    exact rdropWhile_append_of_pos s (by simp)

/-! ## Values on one line -/

/-- The values that take one line: a text without line feed, and a literal with none but one at its
end. -/
def Value.IsOneLine : Value → Prop
  | .number _ => True
  | .text content => '\n' ∉ content.toList
  | .literal source => '\n' ∉ source.toList.dropLast

instance : DecidablePred Value.IsOneLine
  | .number _ => inferInstanceAs (Decidable True)
  | .text content => inferInstanceAs (Decidable ('\n' ∉ content.toList))
  | .literal source => inferInstanceAs (Decidable ('\n' ∉ source.toList.dropLast))

/-- A value that takes one line is written without line feed. -/
theorem Value.IsOneLine.not_mem_chars {value : Value} (h : value.IsOneLine) :
    '\n' ∉ value.chars := by
  cases value with
  | number n =>
    intro hmem
    exact absurd (isDigit_of_mem_decimal hmem) (by decide)
  | text content => exact Quoted.not_mem_encode h
  | literal source =>
    intro hmem
    exact (dropLineFeed_cases h).1 ((cutsOff_rdropWhile _ _).mem hmem)

/-! ## Quoted texts -/

namespace Text.Quoted

/-- A character that is no control character. -/
def IsPrintable (c : Char) : Prop := 0x20 ≤ c.toNat ∧ c.toNat ≠ 0x7f

/-- A text that can stand between quotation marks as it is. -/
structure FitsQuotationMarks (s : List Char) : Prop where
  printable : ∀ c ∈ s, IsPrintable c
  noQuotationMark : '"' ∉ s
  noBackslash : '\\' ∉ s

/-- A text that can stand between apostrophes as it is, but not between quotation marks. -/
structure FitsApostrophes (s : List Char) : Prop where
  printable : ∀ c ∈ s, IsPrintable c ∨ c = '\t'
  noApostrophe : '\'' ∉ s
  special : '"' ∈ s ∨ '\\' ∈ s

/-- A printable character is no control character. -/
theorem IsPrintable.isControl_eq_false {c : Char} (h : IsPrintable c) : isControl c = false := by
  obtain ⟨hlow, hdelete⟩ := h
  have hnot : ¬ c.toNat < 0x20 := Nat.not_lt.mpr hlow
  simp [isControl, hnot, hdelete]

/-- A printable character is none of those below the space. -/
theorem IsPrintable.ne {c d : Char} (h : IsPrintable c) (hd : d.toNat < 0x20) : c ≠ d := by
  rintro rfl
  exact absurd h.1 (Nat.not_le.mpr hd)

/-- A printable character other than a backslash is written as it is. -/
theorem escapeChar_of_isPrintable {c : Char} (h : IsPrintable c) (hbackslash : c ≠ '\\') :
    escapeChar c = [c] := by
  unfold escapeChar
  split
  case h_1 => exact absurd rfl (h.ne (by decide))
  case h_2 => exact absurd rfl (h.ne (by decide))
  case h_3 => exact absurd rfl (h.ne (by decide))
  case h_4 => exact absurd rfl (h.ne (by decide))
  case h_5 => exact absurd rfl (h.ne (by decide))
  case h_6 => exact absurd rfl hbackslash
  case h_7 => rw [if_neg (by simp [h.isControl_eq_false])]

/-- A text that fits between quotation marks needs no escape. -/
theorem escape_of_fitsQuotationMarks {s : List Char} (h : FitsQuotationMarks s) : escape s = s := by
  obtain ⟨hprintable, hquote, hbackslash⟩ := h
  induction s with
  | nil => rfl
  | cons c s ih =>
    rw [List.mem_cons, not_or] at hquote hbackslash
    have hc : IsPrintable c := hprintable c List.mem_cons_self
    have hrest : escape s = s :=
      ih (fun d hd => hprintable d (List.mem_cons_of_mem c hd)) hquote.2 hbackslash.2
    rw [escape, if_neg (Ne.symm hquote.1), escapeChar_of_isPrintable hc (Ne.symm hbackslash.1),
      hrest]
    rfl

/-- A text that fits between quotation marks is written between them. -/
theorem encode_of_fitsQuotationMarks {s : List Char} (h : FitsQuotationMarks s) :
    encode s = '"' :: s ++ ['"'] := by
  have hcontrol : s.any isControl = false :=
    List.any_eq_false.mpr fun c hc => by simp [(h.printable c hc).isControl_eq_false]
  have hfeed : '\n' ∉ s := fun hmem => absurd rfl ((h.printable _ hmem).ne (by decide))
  have hform : Form.choose s = .basic := by
    simp [Form.choose, hcontrol, h.noBackslash, h.noQuotationMark, hfeed]
  simp [encode, hform, Form.opening, Form.delimiter, Form.isMultiline, Form.body,
    escape_of_fitsQuotationMarks h]

/-- A text that fits between apostrophes only is written between them. -/
theorem encode_of_fitsApostrophes {s : List Char} (h : FitsApostrophes s) :
    encode s = '\'' :: s ++ ['\''] := by
  have hcontrol : s.any isControl = false := by
    apply List.any_eq_false.mpr
    intro c hc
    rcases h.printable c hc with hprintable | rfl
    · simp [hprintable.isControl_eq_false]
    · decide
  have hfeed : '\n' ∉ s := by
    intro hmem
    rcases h.printable _ hmem with hprintable | heq
    · exact absurd rfl (hprintable.ne (by decide))
    · contradiction
  have hform : Form.choose s = .literal := by
    rcases h.special with hquote | hbackslash
    · simp [Form.choose, hcontrol, hquote, h.noApostrophe, hfeed]
    · simp [Form.choose, hcontrol, hbackslash, h.noApostrophe, hfeed]
  simp [encode, hform, Form.opening, Form.delimiter, Form.isMultiline, Form.body]

end Text.Quoted

open Text.Quoted

/-! ## Values as they are spelled -/

/-- The texts that stand for a value on one line. -/
inductive Value.Spells : Value → List Char → Prop
  /-- Digits, of which the first is no zero unless it is the only one. -/
  | number {digits : List Char} (h : IsDigits digits)
    (hzero : digits.head? = some '0' → digits = ['0']) :
    Spells (.number (Nat.ofDigitChars 10 digits 0)) digits
  | quotationMarks {s : List Char} (h : FitsQuotationMarks s) :
    Spells (.text (String.ofList s)) ('"' :: s ++ ['"'])
  | apostrophes {s : List Char} (h : FitsApostrophes s) :
    Spells (.text (String.ofList s)) ('\'' :: s ++ ['\''])
  /-- A quoted string that the text is read from. -/
  | escaped {content s : List Char} (hmarks : ¬ FitsQuotationMarks content)
    (hapostrophes : ¬ FitsApostrophes content) (hread : Quoted.read? s = some (content, [])) :
    Spells (.text (String.ofList content)) s
  | literal {source shown : List Char} (h : CutsOff isTerminator source shown) :
    Spells (.literal (String.ofList source)) shown

/-- **What is written for a value spells it.** -/
theorem Value.spells_chars {value : Value} (h : value.IsOneLine) : value.Spells value.chars := by
  cases value with
  | number n =>
    have hspells : Spells (.number (Nat.ofDigitChars 10 (decimal n) 0)) (decimal n) := by
      refine .number (isDigits_decimal n) fun hzero => ?_
      rw [eq_zero_of_head?_decimal hzero]
      exact Nat.toDigits_zero 10
    rwa [ofDigitChars_decimal] at hspells
  | text content =>
    have hspells : Spells (.text (String.ofList content.toList)) (encode content.toList) := by
      by_cases hmarks : FitsQuotationMarks content.toList
      · rw [encode_of_fitsQuotationMarks hmarks]
        exact .quotationMarks hmarks
      · by_cases hapostrophes : FitsApostrophes content.toList
        · rw [encode_of_fitsApostrophes hapostrophes]
          exact .apostrophes hapostrophes
        · exact .escaped hmarks hapostrophes (read?_encode_self content.toList)
    rwa [String.ofList_toList] at hspells
  | literal source =>
    have hspells : Spells (.literal (String.ofList source.toList))
        (dropTerminator source.toList) :=
      .literal (cutsOff_rdropWhile isTerminator source.toList)
    rw [String.ofList_toList, ← literalChars_eq_dropTerminator h] at hspells
    exact hspells

end ClusterConfig
