/-
# Blank characters

The characters of the Unicode property White_Space, and cutting them (or any other class of
characters) off the ends of a text.
-/
namespace ClusterConfig.Text

/-! ## The property White_Space -/

/-- The ranges of White_Space, as first and last code point. -/
def blankRanges : List (Nat × Nat) :=
  [(0x09, 0x0d), (0x20, 0x20), (0x85, 0x85), (0xa0, 0xa0), (0x1680, 0x1680), (0x2000, 0x200a),
    (0x2028, 0x2029), (0x202f, 0x202f), (0x205f, 0x205f), (0x3000, 0x3000)]

/-- A character is blank when its code point has the property White_Space. -/
def isBlank (c : Char) : Bool :=
  blankRanges.any fun (first, last) => first ≤ c.toNat && c.toNat ≤ last

/-- The ranges hold twenty-five characters. -/
example : (blankRanges.map fun (first, last) => last + 1 - first).sum = 25 := by decide

/-- A digit is not blank. -/
theorem isBlank_of_isDigit {c : Char} (h : c.isDigit = true) : isBlank c = false := by
  have hrange : 48 ≤ c.toNat ∧ c.toNat ≤ 57 := by
    simpa [Char.isDigit, UInt32.le_iff_toNat_le] using h
  simp only [isBlank, blankRanges, List.any_cons, List.any_nil, Bool.or_false, Bool.or_eq_false_iff,
    Bool.and_eq_false_iff, decide_eq_false_iff_not]
  omega

/-! ## Cutting characters off the ends -/

/-- Cuts the longest run of characters of the class off the end. This is `List.rdropWhile` written
out, so that the program needs no library. -/
def dropEndWhile (p : Char → Bool) (s : List Char) : List Char :=
  (s.reverse.dropWhile p).reverse

/-- Cuts the blanks off the end. -/
def trimEnd (s : List Char) : List Char := dropEndWhile isBlank s

/-- Cuts the blanks off both ends. -/
def trim (s : List Char) : List Char := trimEnd (s.dropWhile isBlank)

end ClusterConfig.Text
