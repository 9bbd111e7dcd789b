/-
# Decimal numerals

Reading a decimal numeral whose value has to lie in a given range, with the first thing that is
wrong when there is one, and writing a natural number.

The digits are read from left to right. A character that is no digit is found before the value it
would lead to, and a value outside the range as soon as the digits so far leave it. Main statement:
the digits written for a number read back to it under every bound that admits it
(`readDigits_decimal`).
-/
import ClusterConfig.Text.Blank

namespace ClusterConfig.Text

/-! ## Ranges and faults -/

/-- What is wrong with a numeral. -/
inductive NumeralFault where
  | empty
  | invalidDigit
  | tooLarge
  | tooSmall
  deriving DecidableEq, Repr

/-- The wording of a fault. -/
def NumeralFault.message : NumeralFault → String
  | .empty => "cannot parse integer from empty string"
  | .invalidDigit => "invalid digit found in string"
  | .tooLarge => "number too large to fit in target type"
  | .tooSmall => "number too small to fit in target type"

/-- The largest natural number of 16 bits. -/
def maxNat16 : Nat := 65535

/-- The largest natural number of 64 bits. -/
def maxNat64 : Nat := 18446744073709551615

/-- The largest integer of 64 bits. -/
def maxInt64 : Nat := 9223372036854775807

/-- The absolute value of the smallest integer of 64 bits. -/
def negMinInt64 : Nat := 9223372036854775808

/-! ## Reading -/

/-- The value of a decimal digit. -/
def digitValue (c : Char) : Nat := c.toNat - '0'.toNat

/-- Reads digits after a value so far, up to a bound; `overflow` is the fault of a value beyond
it. -/
def readDigits (bound : Nat) (overflow : NumeralFault) : Nat → List Char → Except NumeralFault Nat
  | n, [] => .ok n
  | n, c :: rest =>
    if c.isDigit then
      let next := 10 * n + digitValue c
      if next ≤ bound then readDigits bound overflow next rest else .error overflow
    else .error .invalidDigit

/-- Reads at least one digit. -/
def readMagnitude (bound : Nat) (overflow : NumeralFault) : List Char → Except NumeralFault Nat
  | [] => .error .invalidDigit
  | digits => readDigits bound overflow 0 digits

/-- Reads a natural number, with a plus sign or none in front. -/
def readNat (bound : Nat) : List Char → Except NumeralFault Nat
  | [] => .error .empty
  | '+' :: digits => readMagnitude bound .tooLarge digits
  | digits => readMagnitude bound .tooLarge digits

/-- Reads an integer of 64 bits, with a sign or none in front. -/
def readInt64 : List Char → Except NumeralFault Int
  | [] => .error .empty
  | '-' :: digits => (readMagnitude negMinInt64 .tooSmall digits).map fun n => -(n : Int)
  | '+' :: digits => (readMagnitude maxInt64 .tooLarge digits).map fun n => (n : Int)
  | digits => (readMagnitude maxInt64 .tooLarge digits).map fun n => (n : Int)

/-! ## Writing -/

/-- The decimal digits of a number. -/
def decimal (n : Nat) : List Char := Nat.toDigits 10 n

/-- A number in decimal. -/
def showNat (n : Nat) : String := String.ofList (decimal n)

/-- An integer in decimal, with a minus sign when it is negative. -/
def showInt (i : Int) : String :=
  String.ofList (if i < 0 then '-' :: decimal i.natAbs else decimal i.natAbs)

/-- The value so far is at most the value that all the digits lead to. -/
theorem le_ofDigitChars (digits : List Char) (n : Nat) : n ≤ Nat.ofDigitChars 10 digits n := by
  rw [Nat.ofDigitChars_eq_ofDigitChars_zero]
  have : 1 * n ≤ 10 ^ digits.length * n := Nat.mul_le_mul_right n (Nat.pow_pos (by decide))
  omega

/-- Digits within the bound are read, and what comes after them is read after their value. -/
theorem readDigits_append {bound : Nat} {overflow : NumeralFault} {digits : List Char} {n : Nat}
    (hdigit : ∀ c ∈ digits, c.isDigit = true) (hle : Nat.ofDigitChars 10 digits n ≤ bound)
    (rest : List Char) :
    readDigits bound overflow n (digits ++ rest) =
      readDigits bound overflow (Nat.ofDigitChars 10 digits n) rest := by
  induction digits generalizing n with
  | nil => rfl
  | cons c digits ih =>
    rw [Nat.ofDigitChars_cons] at hle ⊢
    have hnext : 10 * n + digitValue c ≤ bound := Nat.le_trans (le_ofDigitChars digits _) hle
    rw [List.cons_append, readDigits, if_pos (hdigit c List.mem_cons_self), if_pos hnext]
    exact ih (fun d hd => hdigit d (List.mem_cons_of_mem c hd)) hle

/-- Digits read to their value when the bound admits it. -/
theorem readDigits_of_le {bound : Nat} {overflow : NumeralFault} {digits : List Char} {n : Nat}
    (hdigit : ∀ c ∈ digits, c.isDigit = true) (hle : Nat.ofDigitChars 10 digits n ≤ bound) :
    readDigits bound overflow n digits = .ok (Nat.ofDigitChars 10 digits n) := by
  rw [← List.append_nil digits, readDigits_append hdigit hle, List.append_nil]
  rfl

/-- A number is written in digits. -/
theorem isDigit_of_mem_decimal {n : Nat} {c : Char} (h : c ∈ decimal n) : c.isDigit = true :=
  Nat.isDigit_of_mem_toDigits (by decide) (by decide) h

/-- At least one digit is written. -/
theorem decimal_ne_nil (n : Nat) : decimal n ≠ [] := Nat.toDigits_ne_nil

/-- The digits written for a number have its value. -/
theorem ofDigitChars_decimal (n : Nat) : Nat.ofDigitChars 10 (decimal n) 0 = n :=
  Nat.ofDigitChars_toDigits (by decide) (by decide)

/-- Different numbers are written differently. -/
theorem decimal_injective {m n : Nat} (h : decimal m = decimal n) : m = n := by
  rw [← ofDigitChars_decimal m, h, ofDigitChars_decimal]

/-- Only zero is written with a zero in front. -/
theorem eq_zero_of_head?_decimal {n : Nat} (h : (decimal n).head? = some '0') : n = 0 := by
  induction n using Nat.strongRecOn with
  | ind n ih =>
    rw [decimal, Nat.toDigits_eq_if (by decide)] at h
    split at h
    · next hlt =>
      have hdigits : ∀ m < 10, [m.digitChar].head? = some '0' → m = 0 := by decide
      exact hdigits n hlt h
    · next hge =>
      rw [List.head?_append, Option.or_of_isSome (by simp)] at h
      have hzero : n / 10 = 0 := ih (n / 10) (by omega) h
      omega

/-- The digits written for a number read back to it under every bound that admits it. -/
theorem readDigits_decimal {bound n : Nat} (overflow : NumeralFault) (h : n ≤ bound) :
    readDigits bound overflow 0 (decimal n) = .ok n := by
  have hdigit : ∀ c ∈ decimal n, c.isDigit = true := fun c hc => isDigit_of_mem_decimal hc
  rw [readDigits_of_le hdigit ((ofDigitChars_decimal n).symm ▸ h), ofDigitChars_decimal]

/-- A number is written with a digit in front. -/
theorem decimal_eq_cons (n : Nat) : ∃ c rest, decimal n = c :: rest ∧ c.isDigit = true := by
  obtain ⟨c, rest, hc⟩ := List.exists_cons_of_ne_nil (decimal_ne_nil n)
  refine ⟨c, rest, hc, isDigit_of_mem_decimal (n := n) ?_⟩
  rw [hc]
  exact List.mem_cons_self

/-- A number that is written is read under every bound that admits it. -/
theorem readMagnitude_decimal {bound n : Nat} (overflow : NumeralFault) (h : n ≤ bound) :
    readMagnitude bound overflow (decimal n) = .ok n := by
  obtain ⟨c, rest, hc, -⟩ := decimal_eq_cons n
  rw [← readDigits_decimal overflow h, hc]
  rfl

/-- A natural number that is written is read under every bound that admits it. -/
theorem readNat_decimal {bound n : Nat} (h : n ≤ bound) : readNat bound (decimal n) = .ok n := by
  obtain ⟨c, rest, hc, hdigit⟩ := decimal_eq_cons n
  have hplus : c ≠ '+' := by
    rintro rfl
    exact absurd hdigit (by decide)
  rw [← readMagnitude_decimal .tooLarge h, hc, readNat.eq_def]
  split
  · contradiction
  · next heq => exact absurd (List.cons.inj heq).1 hplus
  · rfl

/-- A natural number that is written is read as an integer of 64 bits when it is one. -/
theorem readInt64_decimal {n : Nat} (h : n ≤ maxInt64) : readInt64 (decimal n) = .ok (n : Int) := by
  obtain ⟨c, rest, hc, hdigit⟩ := decimal_eq_cons n
  have hminus : c ≠ '-' := by
    rintro rfl
    exact absurd hdigit (by decide)
  have hplus : c ≠ '+' := by
    rintro rfl
    exact absurd hdigit (by decide)
  have hread := readMagnitude_decimal .tooLarge h
  rw [hc] at hread ⊢
  rw [readInt64.eq_def]
  split
  · contradiction
  · next heq => exact absurd (List.cons.inj heq).1 hminus
  · next heq => exact absurd (List.cons.inj heq).1 hplus
  · rw [hread]
    rfl

end ClusterConfig.Text
