/-
# What is wrong with a numeral

A text that is no numeral in its range is reported with a reason. Main statement: numerals among the
arguments are read exactly when they are ones, and otherwise quoted as they were given and reported
in words with the first thing that is wrong with them (`readNumeral_gives_or_reports`).

Two things can be wrong with digits: a character that is none, and a value out of range. The one
that comes first counts, where a value is out of range at the first digit that leads it there. So
digits that are too many hide a character behind them that is no digit.
-/
import ClusterConfig.Proofs.Arguments
import ClusterConfig.Proofs.Text.Trimming

namespace ClusterConfig

namespace Text

/-! ## Faults -/

/-- What is wrong first when a text is read as digits after a value. All that comes before are digits
whose value is within the bound; then comes a character that is no digit, or a digit that leads out
of range. -/
inductive DigitFault (bound : Nat) (overflow : NumeralFault) (start : Nat) :
    List Char → NumeralFault → Prop
  | nonDigit {before : List Char} {c : Char} (rest : List Char)
    (hdigits : ∀ d ∈ before, d.isDigit = true) (hwithin : Nat.ofDigitChars 10 before start ≤ bound)
    (hc : c.isDigit = false) :
    DigitFault bound overflow start (before ++ c :: rest) .invalidDigit
  | beyond {before : List Char} {c : Char} (rest : List Char)
    (hdigits : ∀ d ∈ before, d.isDigit = true) (hwithin : Nat.ofDigitChars 10 before start ≤ bound)
    (hc : c.isDigit = true) (hbeyond : bound < Nat.ofDigitChars 10 (before ++ [c]) start) :
    DigitFault bound overflow start (before ++ c :: rest) overflow

/-- What is wrong with a text that has to be one or more digits. -/
inductive MagnitudeFault (bound : Nat) (overflow : NumeralFault) : List Char → NumeralFault → Prop
  | noDigit : MagnitudeFault bound overflow [] .invalidDigit
  | digit {s : List Char} {fault : NumeralFault} (h : DigitFault bound overflow 0 s fault) :
    MagnitudeFault bound overflow s fault

/-- What is wrong with a text that has to be the numeral of a natural number. A plus sign may stand
in front, and nothing but digits after it. -/
inductive NatFault (bound : Nat) : List Char → NumeralFault → Prop
  | empty : NatFault bound [] .empty
  | plus {digits : List Char} {fault : NumeralFault}
    (h : MagnitudeFault bound .tooLarge digits fault) : NatFault bound ('+' :: digits) fault
  | unsigned {s : List Char} {fault : NumeralFault} (hne : s ≠ []) (hplus : s.head? ≠ some '+')
    (h : MagnitudeFault bound .tooLarge s fault) : NatFault bound s fault

/-- What is wrong with a text that has to be the numeral of an integer of 64 bits. After a minus
sign the range has another bound, and it is left downwards. -/
inductive Int64Fault : List Char → NumeralFault → Prop
  | minus {digits : List Char} {fault : NumeralFault}
    (h : MagnitudeFault 9223372036854775808 .tooSmall digits fault) : Int64Fault ('-' :: digits) fault
  | nonnegative {s : List Char} {fault : NumeralFault} (hminus : s.head? ≠ some '-')
    (h : NatFault 9223372036854775807 s fault) : Int64Fault s fault

/-! ## Reading digits -/

section

variable {bound start : Nat} {overflow fault : NumeralFault} {s : List Char}

/-- What is wrong after one more digit is wrong. -/
theorem DigitFault.cons {c : Char} (hc : c.isDigit = true)
    (h : DigitFault bound overflow (10 * start + digitValue c) s fault) :
    DigitFault bound overflow start (c :: s) fault := by
  cases h with
  | nonDigit rest hdigits hwithin hd =>
    rw [← List.cons_append]
    refine .nonDigit rest (List.forall_mem_cons.mpr ⟨hc, hdigits⟩) ?_ hd
    rwa [Nat.ofDigitChars_cons]
  | beyond rest hdigits hwithin hd hbeyond =>
    rw [← List.cons_append]
    refine .beyond rest (List.forall_mem_cons.mpr ⟨hc, hdigits⟩) ?_ hd ?_
    · rwa [Nat.ofDigitChars_cons]
    · rwa [List.cons_append, Nat.ofDigitChars_cons]

/-- Digits after a value within the bound are not read for the first thing that is wrong with
them. -/
theorem readDigits_eq_error_iff (hstart : start ≤ bound) :
    readDigits bound overflow start s = .error fault ↔ DigitFault bound overflow start s fault := by
  constructor
  · intro h
    induction s generalizing start with
    | nil => contradiction
    | cons c rest ih =>
      have hnone : ∀ d ∈ ([] : List Char), d.isDigit = true := fun d hd =>
        absurd hd List.not_mem_nil
      rw [readDigits] at h
      split at h
      case isFalse hc =>
        obtain rfl := Except.error.inj h
        rw [← List.nil_append (c :: rest)]
        exact .nonDigit rest hnone hstart (eq_false_of_ne_true hc)
      case isTrue hc =>
        dsimp only at h
        split at h
        case isTrue hnext => exact (ih hnext h).cons hc
        case isFalse hnext =>
          obtain rfl := Except.error.inj h
          rw [← List.nil_append (c :: rest)]
          exact .beyond rest hnone hstart hc (Nat.not_le.mp hnext)
  · intro h
    cases h with
    | nonDigit rest hdigits hwithin hc =>
      rw [readDigits_append hdigits hwithin, readDigits, if_neg (by simp [hc])]
    | beyond rest hdigits hwithin hc hbeyond =>
      rw [Nat.ofDigitChars_append, Nat.ofDigitChars_cons, Nat.ofDigitChars_nil] at hbeyond
      rw [readDigits_append hdigits hwithin, readDigits, if_pos hc]
      exact if_neg (Nat.not_le.mpr hbeyond)

/-- A text that has to be digits is not read for what is wrong with it. -/
theorem readMagnitude_eq_error_iff :
    readMagnitude bound overflow s = .error fault ↔ MagnitudeFault bound overflow s fault := by
  have hdigits : readDigits bound overflow 0 s = .error fault ↔ DigitFault bound overflow 0 s fault :=
    readDigits_eq_error_iff (Nat.zero_le bound)
  cases s with
  | nil =>
    constructor
    · intro h
      obtain rfl : NumeralFault.invalidDigit = fault := Except.error.inj h
      exact .noDigit
    · intro h
      cases h with
      | noDigit => rfl
      | digit h => exact absurd (hdigits.mpr h) (by simp [readDigits])
  | cons c rest =>
    constructor
    · intro h
      exact .digit (hdigits.mp h)
    · intro h
      cases h with
      | digit h => exact hdigits.mpr h

/-! ## Reading numerals -/

/-- **A text is not read as a natural number** for the first thing that is wrong with it. -/
theorem readNat_eq_error_iff : readNat bound s = .error fault ↔ NatFault bound s fault := by
  rw [readNat.eq_def]
  split
  case h_1 =>
    constructor
    · intro h
      obtain rfl : NumeralFault.empty = fault := Except.error.inj h
      exact .empty
    · intro h
      cases h with
      | empty => rfl
      | unsigned hne => contradiction
  case h_2 digits =>
    rw [readMagnitude_eq_error_iff]
    constructor
    · exact .plus
    · intro h
      cases h with
      | plus h => exact h
      | unsigned _ hplus => exact absurd rfl hplus
  case h_3 hne hplus =>
    rw [readMagnitude_eq_error_iff]
    constructor
    · refine .unsigned hne ?_
      intro hhead
      obtain ⟨rest, rfl⟩ := List.head?_eq_some_iff.mp hhead
      exact hplus rest rfl
    · intro h
      cases h with
      | empty => exact absurd rfl hne
      | plus => exact absurd rfl (hplus _)
      | unsigned _ _ h => exact h

/-- A number that is given a sign fails as it did without. -/
theorem map_sign_eq_error_iff {result : Except NumeralFault Nat} {sign : Int → Int} :
    (do return ((← result) : Int)).map sign = .error fault ↔ result = .error fault := by
  rw [map_return_eq_map]
  cases result with
  | error found => simp [Except.map]
  | ok n => simp [Except.map]

/-- Without a minus sign an integer fails as a natural number does. -/
theorem readInt64_eq_error_iff_readNat (hminus : s.head? ≠ some '-') :
    readInt64 s = .error fault ↔ readNat maxInt64 s = .error fault := by
  rw [readInt64.eq_def]
  split
  case h_1 => exact Iff.of_eq (by simp [readNat])
  case h_2 => exact absurd rfl hminus
  case h_3 => exact map_sign_eq_error_iff
  case h_4 hne _ hplus =>
    rw [map_sign_eq_error_iff, readNat.eq_def]
    split
    case h_1 => contradiction
    case h_2 => exact absurd rfl (hplus _)
    case h_3 => rfl

/-- **A text is not read as an integer of 64 bits** for the first thing that is wrong with it. -/
theorem readInt64_eq_error_iff : readInt64 s = .error fault ↔ Int64Fault s fault := by
  by_cases hminus : s.head? = some '-'
  · obtain ⟨digits, rfl⟩ := List.head?_eq_some_iff.mp hminus
    have hread : readInt64 ('-' :: digits) = .error fault ↔
        readMagnitude negMinInt64 .tooSmall digits = .error fault := map_sign_eq_error_iff
    rw [hread, readMagnitude_eq_error_iff]
    constructor
    · exact .minus
    · intro h
      cases h with
      | minus h => exact h
      | nonnegative hminus => exact absurd rfl hminus
  · rw [readInt64_eq_error_iff_readNat hminus, readNat_eq_error_iff]
    constructor
    · exact .nonnegative hminus
    · intro h
      cases h with
      | minus => exact absurd rfl hminus
      | nonnegative _ h => exact h

end

/-! ## Zeros in front -/

/-- Zeros in front of digits count for nothing. -/
theorem readMagnitude_zeros {bound : Nat} {overflow : NumeralFault} {digits : List Char}
    (hne : digits ≠ []) (zeros : Nat) :
    readMagnitude bound overflow (List.replicate zeros '0' ++ digits) =
      readMagnitude bound overflow digits := by
  have hread : ∀ s : List Char, s ≠ [] →
      readMagnitude bound overflow s = readDigits bound overflow 0 s := by
    intro s hs
    obtain ⟨c, rest, rfl⟩ := List.exists_cons_of_ne_nil hs
    rfl
  have hvalue : Nat.ofDigitChars 10 (List.replicate zeros '0') 0 = 0 := by simp
  have hzero : ∀ d ∈ List.replicate zeros '0', d.isDigit = true := by
    intro d hd
    obtain rfl := (List.mem_replicate.mp hd).2
    rfl
  rw [hread _ hne, hread _ (List.append_ne_nil_of_right_ne_nil _ hne),
    readDigits_append hzero (by omega), hvalue]

/-- Digits are read as a natural number without a sign. -/
theorem readNat_of_isDigits {bound : Nat} {digits : List Char} (h : IsDigits digits) :
    readNat bound digits = readMagnitude bound .tooLarge digits := by
  rw [readNat.eq_def]
  split
  case h_1 => exact absurd rfl h.ne_nil
  case h_2 => exact absurd rfl (h.ne_cons (by decide))
  case h_3 => rfl

/-- Digits are read as an integer without a sign. -/
theorem readInt64_of_isDigits {digits : List Char} (h : IsDigits digits) :
    readInt64 digits = readInt64 ('+' :: digits) := by
  rw [readInt64.eq_def digits]
  split
  case h_1 => exact absurd rfl h.ne_nil
  case h_2 => exact absurd rfl (h.ne_cons (by decide))
  case h_3 => exact absurd rfl (h.ne_cons (by decide))
  case h_4 => rfl

/-- Digits with zeros in front are digits. -/
theorem IsDigits.zeros {digits : List Char} (h : IsDigits digits) (zeros : Nat) :
    IsDigits (List.replicate zeros '0' ++ digits) := by
  refine ⟨List.append_ne_nil_of_right_ne_nil _ h.ne_nil, ?_⟩
  intro c hc
  rcases List.mem_append.mp hc with hc | hc
  · obtain rfl := (List.mem_replicate.mp hc).2
    rfl
  · exact h.isDigit c hc

/-- Zeros behind a sign, or without one, count for nothing. -/
theorem read_zeros {sign digits : List Char} (hsign : sign ∈ [[], ['+'], ['-']])
    (h : IsDigits digits) (zeros : Nat) :
    readInt64 (sign ++ (List.replicate zeros '0' ++ digits)) = readInt64 (sign ++ digits) ∧
      readNat maxNat64 (sign ++ (List.replicate zeros '0' ++ digits)) =
        readNat maxNat64 (sign ++ digits) := by
  have hplus : readInt64 ('+' :: (List.replicate zeros '0' ++ digits)) =
      readInt64 ('+' :: digits) := by
    rw [readInt64, readInt64, readMagnitude_zeros h.ne_nil]
  have hminus : readInt64 ('-' :: (List.replicate zeros '0' ++ digits)) =
      readInt64 ('-' :: digits) := by
    rw [readInt64, readInt64, readMagnitude_zeros h.ne_nil]
  simp only [List.mem_cons, List.not_mem_nil, or_false] at hsign
  rcases hsign with rfl | rfl | rfl
  · constructor
    · rw [List.nil_append, List.nil_append, readInt64_of_isDigits (h.zeros zeros), hplus,
        readInt64_of_isDigits h]
    · rw [List.nil_append, List.nil_append, readNat_of_isDigits (h.zeros zeros),
        readMagnitude_zeros h.ne_nil, readNat_of_isDigits h]
  · exact ⟨hplus, readMagnitude_zeros h.ne_nil zeros⟩
  · exact ⟨hminus, rfl⟩

/-! ## Blanks around a text -/

/-- The code points with the property White_Space. -/
def whiteSpace : List Nat :=
  [0x09, 0x0a, 0x0b, 0x0c, 0x0d, 0x20, 0x85, 0xa0, 0x1680, 0x2000, 0x2001, 0x2002, 0x2003, 0x2004,
    0x2005, 0x2006, 0x2007, 0x2008, 0x2009, 0x200a, 0x2028, 0x2029, 0x202f, 0x205f, 0x3000]

/-- The blanks are the characters of White_Space. -/
theorem isBlank_iff_mem_whiteSpace {c : Char} : isBlank c = true ↔ c.toNat ∈ whiteSpace := by
  simp only [isBlank, blankRanges, whiteSpace, List.any_cons, List.any_nil, Bool.or_false,
    Bool.or_eq_true, Bool.and_eq_true, decide_eq_true_eq, List.mem_cons, List.not_mem_nil, or_false]
  omega

/-- What is no blank has no code point of White_Space. -/
theorem isBlank_eq_false_iff {c : Char} : isBlank c = false ↔ c.toNat ∉ whiteSpace := by
  rw [← isBlank_iff_mem_whiteSpace, Bool.not_eq_true]

/-- A text without the blanks around it. -/
structure IsTrimOf (s t : List Char) : Prop where
  around : ∃ front back, s = front ++ (t ++ back) ∧ (∀ c ∈ front, c.toNat ∈ whiteSpace) ∧
    ∀ c ∈ back, c.toNat ∈ whiteSpace
  firstOutside : ∀ c ∈ t.head?, c.toNat ∉ whiteSpace
  lastOutside : ∀ c ∈ t.getLast?, c.toNat ∉ whiteSpace

/-- What `trim` leaves is the text without the blanks around it. -/
theorem isTrimOf_trim (s : List Char) : IsTrimOf s (trim s) := by
  have hcut : CutsOff isBlank (s.dropWhile isBlank) (trim s) := cutsOff_rdropWhile isBlank _
  obtain ⟨back, hwhole, hback⟩ := hcut.run
  have hfront : ∀ c ∈ s.takeWhile isBlank, isBlank c = true :=
    List.all_eq_true.mp List.all_takeWhile
  refine ⟨⟨s.takeWhile isBlank, back, ?_, ?_, ?_⟩, ?_, ?_⟩
  · rw [← hwhole, List.takeWhile_append_dropWhile]
  · exact fun c hc => isBlank_iff_mem_whiteSpace.mp (hfront c hc)
  · exact fun c hc => isBlank_iff_mem_whiteSpace.mp (hback c hc)
  · intro c hc
    apply isBlank_eq_false_iff.mp
    have hhead : (s.dropWhile isBlank).head? = some c := by
      rw [hwhole, List.head?_append, Option.mem_def.mp hc]
      rfl
    have hnot := List.head?_dropWhile_not isBlank s
    rw [hhead] at hnot
    simpa using hnot
  · exact fun c hc => isBlank_eq_false_iff.mp (hcut.lastOutside c hc)

end Text

open Text

namespace Arguments

/-! ## Reasons in words -/

/-- The names under which the arguments are reported. -/
inductive Names : NumeralArgument → String → Prop
  | nodeIndex : Names .nodeIndex "nodeIndex"
  | clusterSize : Names .clusterSize "clusterSize"
  | firstTiming : Names .firstTiming "param1"
  | secondTiming : Names .secondTiming "param2"

/-- What is said of a text that is no numeral, beside what is wrong with it. -/
inductive Explains (faulty : List Char → NumeralFault → Prop) (s : List Char) :
    NumeralFault → String → Prop
  | empty (h : faulty s .empty) :
    Explains faulty s .empty "cannot parse integer from empty string"
  | invalidDigit (h : faulty s .invalidDigit) :
    Explains faulty s .invalidDigit "invalid digit found in string"
  | tooLarge (h : faulty s .tooLarge) :
    Explains faulty s .tooLarge "number too large to fit in target type"
  | tooSmall (h : faulty s .tooSmall) :
    Explains faulty s .tooSmall "number too small to fit in target type"

/-- Every argument is reported under its name. -/
theorem names_label (argument : NumeralArgument) : Names argument argument.label := by
  cases argument
  case nodeIndex => exact .nodeIndex
  case clusterSize => exact .clusterSize
  case firstTiming => exact .firstTiming
  case secondTiming => exact .secondTiming

/-- All that is wrong with a text is said in words. -/
theorem explains_message {faulty : List Char → NumeralFault → Prop} {s : List Char}
    {fault : NumeralFault} (h : faulty s fault) : Explains faulty s fault fault.message := by
  cases fault with
  | empty => exact .empty h
  | invalidDigit => exact .invalidDigit h
  | tooLarge => exact .tooLarge h
  | tooSmall => exact .tooSmall h

/-- What is said of a text is wrong with it. -/
theorem Explains.faulty {faulty : List Char → NumeralFault → Prop} {s : List Char}
    {fault : NumeralFault} {reason : String} (h : Explains faulty s fault reason) :
    faulty s fault := by
  cases h with
  | empty h | invalidDigit h | tooLarge h | tooSmall h => exact h

/-- A report names the argument, quotes what was given and says what is wrong. -/
theorem invalidArgument_quoted (name given reason : String) :
    Failure.invalidArgument name ("`" ++ given ++ "`: " ++ reason) =
      "invalid argument `" ++ name ++ "`: `" ++ given ++ "`: " ++ reason := by
  have hquotes : "`: `".toList = "`: ".toList ++ "`".toList := by decide
  unfold Failure.invalidArgument
  apply String.toList_inj.mp
  simp only [String.toList_append, List.append_assoc, hquotes]

/-! ## Numerals among the arguments -/

/-- How an argument is read that has to be a numeral: its value is the one that the text between the
blanks denotes. Otherwise it is reported in words what is wrong with that text, after the name of
the argument and the argument as it was given. -/
structure Reads {α : Type} (read : List Char → Except NumeralFault α)
    (denotes : List Char → α → Prop) (faulty : List Char → NumeralFault → Prop)
    (argument : NumeralArgument) (given : String) : Prop where
  trimmed : IsTrimOf given.toList (trim given.toList)
  ok_iff : ∀ a, readNumeral read argument given = .ok a ↔ denotes (trim given.toList) a
  error_iff : ∀ failure, readNumeral read argument given = .error failure ↔
    ∃ fault reason name, Explains faulty (trim given.toList) fault reason ∧ Names argument name ∧
      failure = .malformedNumeral argument given fault ∧
      failure.message = "invalid argument `" ++ name ++ "`: `" ++ given ++ "`: " ++ reason

/-- An argument is read as its text is. -/
theorem reads_of_iff {α : Type} {read : List Char → Except NumeralFault α}
    {denotes : List Char → α → Prop} {faulty : List Char → NumeralFault → Prop}
    (hok : ∀ s a, read s = .ok a ↔ denotes s a)
    (herror : ∀ s fault, read s = .error fault ↔ faulty s fault)
    (argument : NumeralArgument) (given : String) : Reads read denotes faulty argument given := by
  refine ⟨isTrimOf_trim given.toList, ?_, ?_⟩
  · intro a
    rw [readNumeral_eq_ok_iff, hok]
  · intro failure
    rw [readNumeral, mapError_eq_error_iff]
    constructor
    · rintro ⟨fault, hfault, rfl⟩
      exact ⟨fault, fault.message, argument.label,
        explains_message ((herror _ fault).mp hfault), names_label argument, rfl,
        invalidArgument_quoted argument.label given fault.message⟩
    · rintro ⟨fault, reason, name, hexplains, -, rfl, -⟩
      exact ⟨fault, (herror _ fault).mpr hexplains.faulty, rfl⟩

/-- **Numerals are read exactly in their range, and otherwise reported for the first thing that is
wrong.** This holds of integers and of natural numbers of 64 bits; zeros in front change neither
what is read nor what is reported, and the ends of the ranges are read. -/
theorem readNumeral_gives_or_reports (argument : NumeralArgument) (given : String) :
    Reads readInt64
      (fun s i => DenotesInt s i ∧ -9223372036854775808 ≤ i ∧ i ≤ 9223372036854775807)
      Int64Fault argument given ∧
    Reads (readNat maxNat64) (fun s n => DenotesNat s n ∧ n ≤ 18446744073709551615)
      (NatFault 18446744073709551615) argument given ∧
    (∀ sign ∈ [[], ['+'], ['-']], ∀ digits, IsDigits digits → ∀ zeros,
      readInt64 (sign ++ (List.replicate zeros '0' ++ digits)) = readInt64 (sign ++ digits) ∧
      readNat maxNat64 (sign ++ (List.replicate zeros '0' ++ digits)) =
        readNat maxNat64 (sign ++ digits)) ∧
    readInt64 "-9223372036854775808".toList = .ok (-9223372036854775808) ∧
    readInt64 "9223372036854775807".toList = .ok 9223372036854775807 ∧
    readNat maxNat64 "18446744073709551615".toList = .ok 18446744073709551615 := by
  refine ⟨?_, ?_, fun _ hsign _ h => read_zeros hsign h, rfl, rfl, rfl⟩
  · exact reads_of_iff (fun _ _ => readInt64_eq_ok_iff) (fun _ _ => readInt64_eq_error_iff) _ _
  · exact reads_of_iff (fun _ _ => readNat_eq_ok_iff) (fun _ _ => readNat_eq_error_iff) _ _

/-- What is said of an argument that is reported for a fault. -/
theorem Reads.exists_message {α : Type} {read : List Char → Except NumeralFault α}
    {denotes : List Char → α → Prop} {faulty : List Char → NumeralFault → Prop}
    {argument : NumeralArgument} {given : String} {fault : NumeralFault}
    (h : Reads read denotes faulty argument given)
    (hread : readNumeral read argument given = .error (.malformedNumeral argument given fault)) :
    ∃ reason name, Explains faulty (trim given.toList) fault reason ∧ Names argument name ∧
      (Failure.malformedNumeral argument given fault).message =
        "invalid argument `" ++ name ++ "`: `" ++ given ++ "`: " ++ reason := by
  obtain ⟨found, reason, name, hexplains, hname, hfailure, hmessage⟩ := (h.error_iff _).mp hread
  obtain ⟨-, -, rfl⟩ := Failure.malformedNumeral.inj hfailure
  exact ⟨reason, name, hexplains, hname, hmessage⟩

/-- An argument with nothing but blanks. -/
def blankArgument : String := "\t "

/-- A numeral with a letter where any digit would lead out of the range. -/
def letterAtEdge : String := "+18446744073709551615x"

/-- A numeral that leaves the range upwards in front of a letter. -/
def aboveRange : String := "18446744073709551616x"

/-- A numeral that leaves the range downwards in front of a letter. -/
def belowRange : String := "\t-0092233720368547758080x "

/-- The letter is noticed where the digits in front of it are not too many, and it is not noticed
behind digits that are too many. All four reasons are reported. -/
theorem readNumeral_faultyArguments :
    (NatFault 18446744073709551615 [] .empty ∧
      (Failure.malformedNumeral .secondTiming blankArgument .empty).message =
        "invalid argument `param2`: `\t `: cannot parse integer from empty string") ∧
    (NatFault 18446744073709551615 "+18446744073709551615x".toList .invalidDigit ∧
      (Failure.malformedNumeral .clusterSize letterAtEdge .invalidDigit).message =
        "invalid argument `clusterSize`: `+18446744073709551615x`: invalid digit found in string") ∧
    (NatFault 18446744073709551615 "18446744073709551616x".toList .tooLarge ∧
      (Failure.malformedNumeral .firstTiming aboveRange .tooLarge).message =
        "invalid argument `param1`: `18446744073709551616x`: " ++
          "number too large to fit in target type") ∧
    (Int64Fault "-0092233720368547758080x".toList .tooSmall ∧
      (Failure.malformedNumeral .nodeIndex belowRange .tooSmall).message =
        "invalid argument `nodeIndex`: `\t-0092233720368547758080x `: " ++
          "number too small to fit in target type") ∧
    ['-'] ∈ [[], ['+'], ['-']] ∧ IsDigits ['7'] ∧
    readInt64 "-007".toList = readInt64 "-7".toList := by
  have hdigits : IsDigits ['7'] := ⟨by simp, by simp⟩
  obtain ⟨-, hblank, -⟩ := readNumeral_gives_or_reports .secondTiming blankArgument
  obtain ⟨-, hedge, -⟩ := readNumeral_gives_or_reports .clusterSize letterAtEdge
  obtain ⟨-, habove, -⟩ := readNumeral_gives_or_reports .firstTiming aboveRange
  obtain ⟨hbelow, -, hzeros, -⟩ := readNumeral_gives_or_reports .nodeIndex belowRange
  refine ⟨?_, ?_, ?_, ?_, by decide, hdigits, (hzeros ['-'] (by decide) ['7'] hdigits 2).1⟩
  · obtain ⟨_, _, hexplains, ⟨⟩, hmessage⟩ := hblank.exists_message rfl
    cases hexplains with
    | empty hfault => exact ⟨hfault, hmessage.trans (by decide +kernel)⟩
  · obtain ⟨_, _, hexplains, ⟨⟩, hmessage⟩ := hedge.exists_message rfl
    cases hexplains with
    | invalidDigit hfault => exact ⟨hfault, hmessage.trans (by decide +kernel)⟩
  · obtain ⟨_, _, hexplains, ⟨⟩, hmessage⟩ := habove.exists_message rfl
    cases hexplains with
    | tooLarge hfault => exact ⟨hfault, hmessage.trans (by decide +kernel)⟩
  · obtain ⟨_, _, hexplains, ⟨⟩, hmessage⟩ := hbelow.exists_message rfl
    cases hexplains with
    | tooSmall hfault => exact ⟨hfault, hmessage.trans (by decide +kernel)⟩

end Arguments

end ClusterConfig
