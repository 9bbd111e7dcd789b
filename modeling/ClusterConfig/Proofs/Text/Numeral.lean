/-
# Which texts are numerals

A numeral is one or more decimal digits, with a sign in front or without one; zeros in front count
for nothing. Main statements: a text is read as a number exactly when it is a numeral of this number
and the number lies in the range that is asked for (`readNat_eq_ok_iff`, `readInt64_eq_ok_iff`).

The reader gives up at the first digit that leads out of the range. As the value of digits only
grows, this is no earlier than the value of all of them does.
-/
import ClusterConfig.Text.Numeral

namespace ClusterConfig.Text

/-! ## Numerals -/

/-- One or more decimal digits. -/
structure IsDigits (digits : List Char) : Prop where
  ne_nil : digits ≠ []
  isDigit : ∀ c ∈ digits, c.isDigit = true

/-- The numerals of a natural number, with or without a plus sign. -/
inductive DenotesNat : List Char → Nat → Prop
  | unsigned {digits : List Char} (h : IsDigits digits) :
    DenotesNat digits (Nat.ofDigitChars 10 digits 0)
  | plus {digits : List Char} (h : IsDigits digits) :
    DenotesNat ('+' :: digits) (Nat.ofDigitChars 10 digits 0)

/-- The numerals of an integer, with or without a sign. -/
inductive DenotesInt : List Char → Int → Prop
  | nonnegative {s : List Char} {n : Nat} (h : DenotesNat s n) : DenotesInt s n
  | minus {digits : List Char} (h : IsDigits digits) :
    DenotesInt ('-' :: digits) (-(Nat.ofDigitChars 10 digits 0 : Int))

/-- No digit is a sign. -/
theorem ne_of_isDigit {c sign : Char} (h : c.isDigit = true) (hsign : sign.isDigit = false) :
    c ≠ sign := by
  rintro rfl
  rw [h] at hsign
  contradiction

/-- Digits do not begin with a sign. -/
theorem IsDigits.ne_cons {digits rest : List Char} {sign : Char} (h : IsDigits digits)
    (hsign : sign.isDigit = false) : digits ≠ sign :: rest := by
  rintro rfl
  exact ne_of_isDigit (h.isDigit sign List.mem_cons_self) hsign rfl

/-- No numeral holds anything but digits and the plus sign. -/
theorem DenotesNat.not_mem {s : List Char} {n : Nat} {c : Char} (h : DenotesNat s n)
    (hdigit : c.isDigit = false) (hplus : c ≠ '+') : c ∉ s := by
  have hdigits : ∀ {digits : List Char}, IsDigits digits → c ∉ digits := by
    intro digits hdigits hmem
    rw [hdigits.isDigit c hmem] at hdigit
    contradiction
  cases h with
  | unsigned h => exact hdigits h
  | plus h => exact List.not_mem_cons_of_ne_of_not_mem hplus (hdigits h)

/-- A number is written as digits. -/
theorem isDigits_decimal (n : Nat) : IsDigits (decimal n) :=
  ⟨decimal_ne_nil n, fun _ => isDigit_of_mem_decimal⟩

/-! ## Reading digits -/

/-- Digits are read after a value within the bound exactly when their value is within it, too. -/
theorem readDigits_eq_ok_iff {bound : Nat} {overflow : NumeralFault} {digits : List Char}
    {before n : Nat} (hbefore : before ≤ bound) :
    readDigits bound overflow before digits = .ok n ↔
      (∀ c ∈ digits, c.isDigit = true) ∧ Nat.ofDigitChars 10 digits before = n ∧ n ≤ bound := by
  constructor
  · intro h
    induction digits generalizing before with
    | nil =>
      obtain rfl : before = n := Except.ok.inj h
      exact ⟨fun c hc => absurd hc List.not_mem_nil, rfl, hbefore⟩
    | cons c rest ih =>
      rw [readDigits] at h
      split at h
      case isFalse => contradiction
      case isTrue hdigit =>
        dsimp only at h
        split at h
        case isFalse => contradiction
        case isTrue hnext =>
          obtain ⟨hrest, hvalue, hle⟩ := ih hnext h
          refine ⟨?_, ?_, hle⟩
          · rintro d hd
            rcases List.mem_cons.mp hd with rfl | hd
            · exact hdigit
            · exact hrest d hd
          · rw [Nat.ofDigitChars_cons]
            exact hvalue
  · rintro ⟨hdigits, rfl, hle⟩
    exact readDigits_of_le hdigits hle

/-- At least one digit is read. -/
theorem readMagnitude_eq_ok_iff {bound : Nat} {overflow : NumeralFault} {digits : List Char}
    {n : Nat} :
    readMagnitude bound overflow digits = .ok n ↔
      IsDigits digits ∧ Nat.ofDigitChars 10 digits 0 = n ∧ n ≤ bound := by
  cases digits with
  | nil =>
    constructor
    · intro h
      contradiction
    · rintro ⟨hdigits, -⟩
      exact absurd rfl hdigits.ne_nil
  | cons c rest =>
    rw [readMagnitude.eq_def]
    dsimp only
    rw [readDigits_eq_ok_iff (Nat.zero_le bound)]
    constructor
    · rintro ⟨hdigits, hvalue, hle⟩
      exact ⟨⟨List.cons_ne_nil c rest, hdigits⟩, hvalue, hle⟩
    · rintro ⟨hdigits, hvalue, hle⟩
      exact ⟨hdigits.isDigit, hvalue, hle⟩

/-! ## Reading numerals -/

/-- **A text is read as a natural number** exactly when it is one of its numerals and the number is
within the bound. -/
theorem readNat_eq_ok_iff {bound n : Nat} {s : List Char} :
    readNat bound s = .ok n ↔ DenotesNat s n ∧ n ≤ bound := by
  rw [readNat.eq_def]
  split
  case h_1 =>
    constructor
    · intro h
      contradiction
    · rintro ⟨⟨h⟩, -⟩
      exact absurd rfl h.ne_nil
  case h_2 digits =>
    rw [readMagnitude_eq_ok_iff]
    constructor
    · rintro ⟨hdigits, rfl, hle⟩
      exact ⟨.plus hdigits, hle⟩
    · rintro ⟨hdenotes, hle⟩
      cases hdenotes with
      | unsigned h => exact absurd rfl (h.ne_cons (by decide))
      | plus h => exact ⟨h, rfl, hle⟩
  case h_3 hplus =>
    rw [readMagnitude_eq_ok_iff]
    constructor
    · rintro ⟨hdigits, rfl, hle⟩
      exact ⟨.unsigned hdigits, hle⟩
    · rintro ⟨hdenotes, hle⟩
      cases hdenotes with
      | unsigned h => exact ⟨h, rfl, hle⟩
      | plus h => exact absurd rfl (hplus _)

/-- A number that becomes an integer and is then given a sign is given it at once. -/
theorem map_return_eq_map {result : Except NumeralFault Nat} {sign : Int → Int} :
    (do return ((← result) : Int)).map sign = result.map fun n : Nat => sign (n : Int) := by
  cases result with
  | error fault => rfl
  | ok n => rfl

/-- A magnitude is read as an integer when it is given a sign. -/
theorem map_readMagnitude_eq_ok_iff {bound : Nat} {overflow : NumeralFault} {digits : List Char}
    {sign : Int → Int} {i : Int} :
    (do return ((← readMagnitude bound overflow digits) : Int)).map sign = .ok i ↔
      IsDigits digits ∧ sign (Nat.ofDigitChars 10 digits 0) = i ∧
        Nat.ofDigitChars 10 digits 0 ≤ bound := by
  have hmap : (do return ((← readMagnitude bound overflow digits) : Int)).map sign = .ok i ↔
      ∃ n : Nat, readMagnitude bound overflow digits = .ok n ∧ sign n = i := by
    rw [map_return_eq_map]
    cases readMagnitude bound overflow digits with
    | error fault => simp [Except.map]
    | ok n => simp [Except.map]
  rw [hmap]
  constructor
  · rintro ⟨n, hread, rfl⟩
    obtain ⟨hdigits, rfl, hle⟩ := readMagnitude_eq_ok_iff.mp hread
    exact ⟨hdigits, rfl, hle⟩
  · rintro ⟨hdigits, rfl, hle⟩
    exact ⟨_, readMagnitude_eq_ok_iff.mpr ⟨hdigits, rfl, hle⟩, rfl⟩

/-- **A text is read as an integer of 64 bits** exactly when it is a numeral of an integer in their
range. -/
theorem readInt64_eq_ok_iff {s : List Char} {i : Int} :
    readInt64 s = .ok i ↔ DenotesInt s i ∧ -(negMinInt64 : Int) ≤ i ∧ i ≤ maxInt64 := by
  rw [readInt64.eq_def]
  split
  case h_1 =>
    constructor
    · intro h
      contradiction
    · rintro ⟨⟨⟨h⟩⟩, -⟩
      exact absurd rfl h.ne_nil
  case h_2 digits =>
    rw [map_readMagnitude_eq_ok_iff]
    constructor
    · rintro ⟨hdigits, rfl, hle⟩
      exact ⟨.minus hdigits, by omega, by omega⟩
    · rintro ⟨hdenotes, hlower, -⟩
      cases hdenotes with
      | nonnegative h =>
        cases h with
        | unsigned h => exact absurd rfl (h.ne_cons (by decide))
      | minus h => exact ⟨h, rfl, by omega⟩
  case h_3 digits =>
    rw [map_readMagnitude_eq_ok_iff]
    constructor
    · rintro ⟨hdigits, rfl, hle⟩
      exact ⟨.nonnegative (.plus hdigits), by omega, by omega⟩
    · rintro ⟨hdenotes, -, hupper⟩
      cases hdenotes with
      | nonnegative h =>
        cases h with
        | unsigned h => exact absurd rfl (h.ne_cons (by decide))
        | plus h => exact ⟨h, rfl, by omega⟩
  case h_4 hminus hplus =>
    rw [map_readMagnitude_eq_ok_iff]
    constructor
    · rintro ⟨hdigits, rfl, hle⟩
      exact ⟨.nonnegative (.unsigned hdigits), by omega, by omega⟩
    · rintro ⟨hdenotes, -, hupper⟩
      cases hdenotes with
      | nonnegative h =>
        cases h with
        | unsigned h => exact ⟨h, rfl, by omega⟩
        | plus h => exact absurd rfl (hplus _)
      | minus h => exact absurd rfl (hminus _)

end ClusterConfig.Text
