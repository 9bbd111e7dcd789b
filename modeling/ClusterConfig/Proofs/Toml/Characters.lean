/-
# The characters of documents

Some control characters stand nowhere in a document: not in strings, where they have to be escaped,
not in comments, and not in between. Main statement: the text of a document is clean of them
(`IsDocument.clean`).

Every production is clean when its parts are. The reader of quoted strings is followed from what it
leaves over: where that is clean, so is what has been read.
-/
import ClusterConfig.Proofs.Toml.Grammar

namespace ClusterConfig.Toml

open Text

/-! ## Clean texts -/

/-- The control characters that stand nowhere in a document. A carriage return stands at the end of
lines. -/
def isForbidden (c : Char) : Bool := Quoted.isControl c && c != '\r'

/-- A text without forbidden characters. -/
def Clean (s : List Char) : Prop := ∀ c ∈ s, isForbidden c = false

instance : DecidablePred Clean := fun s => List.decidableBAll (isForbidden · = false) s

theorem clean_nil : Clean [] := fun _ hc => absurd hc List.not_mem_nil

theorem clean_cons {c : Char} {s : List Char} :
    Clean (c :: s) ↔ isForbidden c = false ∧ Clean s :=
  List.forall_mem_cons

theorem clean_append {s t : List Char} : Clean (s ++ t) ↔ Clean s ∧ Clean t :=
  List.forall_mem_append

/-- A clean character in front of a clean text. -/
theorem Clean.cons {c : Char} {s : List Char} (hs : Clean s) (hc : isForbidden c = false) :
    Clean (c :: s) :=
  clean_cons.mpr ⟨hc, hs⟩

/-- Clean texts together are clean. -/
theorem Clean.append {s t : List Char} (hs : Clean s) (ht : Clean t) : Clean (s ++ t) :=
  clean_append.mpr ⟨hs, ht⟩

/-- What is no control character is not forbidden. -/
theorem isForbidden_of_not_isControl {c : Char} (h : Quoted.isControl c = false) :
    isForbidden c = false := by
  rw [isForbidden, h, Bool.false_and]

/-- The characters from the blank on are not forbidden, but for the last one of ASCII. -/
theorem isForbidden_of_le {c : Char} (hle : 0x20 ≤ c.toNat) (hne : c.toNat ≠ 0x7f) :
    isForbidden c = false := by
  apply isForbidden_of_not_isControl
  simp [Quoted.isControl, hne]
  omega

/-- Digits are not forbidden. -/
theorem isForbidden_of_isDigit {c : Char} (h : c.isDigit = true) : isForbidden c = false := by
  have hrange : 48 ≤ c.toNat ∧ c.toNat ≤ 57 := by
    simpa [Char.isDigit, UInt32.le_iff_toNat_le] using h
  exact isForbidden_of_le (by omega) (by omega)

/-- Hexadecimal digits are not forbidden. -/
theorem isForbidden_of_hexValue? {c : Char} (h : (Quoted.hexValue? c).isSome = true) :
    isForbidden c = false := by
  have hrange : 48 ≤ c.toNat ∧ c.toNat ≤ 102 := by
    unfold Quoted.hexValue? at h
    simp only [Char.le_def, UInt32.le_iff_toNat_le] at h
    split at h
    · next hdigit => exact ⟨hdigit.1, Nat.le_trans hdigit.2 (by decide)⟩
    · split at h
      · next hupper => exact ⟨Nat.le_trans (by decide) hupper.1, Nat.le_trans hupper.2 (by decide)⟩
      · split at h
        · next hlower => exact ⟨Nat.le_trans (by decide) hlower.1, hlower.2⟩
        · contradiction
  exact isForbidden_of_le (by omega) (by omega)

/-- The characters of bare names are not forbidden. -/
theorem isForbidden_of_isNameChar {c : Char} (h : Document.isNameChar c = true) :
    isForbidden c = false := by
  delta Document.isNameChar Char.isAlphanum Char.isAlpha Char.isUpper Char.isLower at h
  simp only [Bool.or_eq_true, Bool.and_eq_true, decide_eq_true_eq, UInt32.le_iff_toNat_le,
    ge_iff_le] at h
  rcases h with ((((⟨hle, hge⟩ | ⟨hle, hge⟩) | hdigit) | rfl) | rfl)
  · have hrange : 65 ≤ c.toNat ∧ c.toNat ≤ 90 := ⟨hle, hge⟩
    exact isForbidden_of_le (by omega) (by omega)
  · have hrange : 97 ≤ c.toNat ∧ c.toNat ≤ 122 := ⟨hle, hge⟩
    exact isForbidden_of_le (by omega) (by omega)
  · exact isForbidden_of_isDigit hdigit
  all_goals decide

/-- Blanks are not forbidden. -/
theorem isForbidden_of_isSpace {c : Char} (h : Quoted.isSpace c = true) :
    isForbidden c = false := by
  rw [Quoted.isSpace, Bool.or_eq_true, decide_eq_true_eq, decide_eq_true_eq] at h
  rcases h with rfl | rfl <;> decide

/-! ## Quoted strings -/

section Quoted

open Quoted

variable {s rest next content : List Char} {c q : Char}

/-- A hexadecimal number is clean. -/
theorem clean_of_hexNumber? {n : Nat} (h : hexNumber? s = some n) : Clean s := by
  have hfold : ∀ start, s.foldlM (fun n c => (hexValue? c).map (16 * n + ·)) start = some n →
      Clean s := by
    clear h
    induction s with
    | nil => exact fun _ _ => clean_nil
    | cons c s ih =>
      intro start h
      rw [List.foldlM_cons, Option.bind_eq_bind, Option.bind_eq_some_iff] at h
      obtain ⟨next, hc, hs⟩ := h
      obtain ⟨digit, hdigit, -⟩ := Option.map_eq_some_iff.mp hc
      exact (ih next hs).cons (isForbidden_of_hexValue? (by rw [hdigit]; rfl))
  exact hfold 0 h

/-- A code point is clean in front of what is. -/
theorem clean_of_readCodePoint {width : Nat} (h : readCodePoint width s = some (c, rest))
    (hrest : Clean rest) : Clean s := by
  unfold readCodePoint at h
  split at h
  · contradiction
  · simp only [Option.bind_eq_bind, Option.bind_eq_some_iff, Option.pure_def, Option.some.injEq,
      Prod.mk.injEq] at h
    obtain ⟨n, hn, _, _, _, rfl⟩ := h
    rw [← List.take_append_drop width s]
    exact (clean_of_hexNumber? hn).append hrest

/-- An escape is clean in front of what is. -/
theorem clean_of_readEscape (h : readEscape s = some (c, rest)) (hrest : Clean rest) : Clean s := by
  unfold readEscape at h
  split at h
  case h_8 => exact (clean_of_readCodePoint h hrest).cons (by decide)
  case h_9 => exact (clean_of_readCodePoint h hrest).cons (by decide)
  case h_10 => contradiction
  all_goals
    obtain ⟨rfl, rfl⟩ := Prod.mk.inj (Option.some.inj h)
    exact hrest.cons (by decide)

/-- The end of a line is clean in front of what is. -/
theorem clean_of_dropNewline (h : Clean (dropNewline s)) : Clean s := by
  unfold dropNewline at h
  split at h
  · exact h.cons (by decide)
  · exact (h.cons (by decide)).cons (by decide)
  · exact h

/-- Layout is clean in front of what is. -/
theorem clean_of_skipLayout (h : Clean (skipLayout s)) : Clean s := by
  fun_induction skipLayout s with
  | case1 => exact clean_nil
  | case2 rest ih => exact ((ih h).cons (by decide)).cons (by decide)
  | case3 c rest _ hblank ih =>
    refine (ih h).cons ?_
    rw [Bool.or_eq_true, decide_eq_true_eq] at hblank
    rcases hblank with hspace | rfl
    · exact isForbidden_of_isSpace hspace
    · decide
  | case4 => exact h

/-- The end of a line after a backslash is clean in front of what is. -/
theorem clean_of_skipLineEnd? (h : skipLineEnd? s = some next) (hnext : Clean next) : Clean s := by
  rw [skipLineEnd?, Option.ite_none_right_eq_some] at h
  obtain rfl := Option.some.inj h.2
  rw [← List.takeWhile_append_dropWhile (p := isSpace) (l := s)]
  refine Clean.append (fun c hc => ?_) (clean_of_skipLayout hnext)
  exact isForbidden_of_isSpace (List.all_eq_true.mp List.all_takeWhile c hc)

/-- The end of a string of several lines is clean in front of what is. -/
theorem clean_of_closeMultiline (hq : isForbidden q = false)
    (h : closeMultiline q s = (content, rest)) (hrest : Clean rest) : Clean s := by
  obtain ⟨rfl, rfl⟩ := Prod.mk.inj h
  have hstart : (s.take 2).takeWhile (· = q) <+: s :=
    (List.takeWhile_prefix _).trans (List.take_prefix 2 s)
  rw [← List.prefix_iff_eq_append.mp hstart]
  refine Clean.append (fun c hc => ?_) hrest
  have hself : c = q := by simpa using List.all_eq_true.mp List.all_takeWhile c hc
  rwa [hself]

/-- What is pushed in front of a content leaves over the same. -/
theorem exists_of_map_push {found : Option Content}
    (h : found.map (push c) = some (content, rest)) :
    ∃ content, found = some (content, rest) := by
  obtain ⟨⟨before, _⟩, heq, hpush⟩ := Option.map_eq_some_iff.mp h
  obtain ⟨-, rfl⟩ := Prod.mk.inj hpush
  exact ⟨before, heq⟩

/-- A string between quotation marks is clean in front of what is. -/
theorem clean_of_readBasic (h : readBasic s = some (content, rest)) (hrest : Clean rest) :
    Clean s := by
  fun_induction readBasic s generalizing content with
  | case1 => contradiction
  | case2 tail =>
    obtain ⟨-, rfl⟩ := Prod.mk.inj (Option.some.inj h)
    exact hrest.cons (by decide)
  | case3 tail c next hread _ ih =>
    obtain ⟨_, hnext⟩ := exists_of_map_push h
    exact (clean_of_readEscape hread (ih hnext)).cons (by decide)
  | case4 => contradiction
  | case5 => contradiction
  | case6 c tail _ _ hplain ih =>
    obtain ⟨_, hnext⟩ := exists_of_map_push h
    refine (ih hnext).cons (isForbidden_of_not_isControl ?_)
    simp_all

/-- A string between apostrophes is clean in front of what is. -/
theorem clean_of_readLiteral (h : readLiteral s = some (content, rest)) (hrest : Clean rest) :
    Clean s := by
  fun_induction readLiteral s generalizing content with
  | case1 => contradiction
  | case2 tail =>
    obtain ⟨-, rfl⟩ := Prod.mk.inj (Option.some.inj h)
    exact hrest.cons (by decide)
  | case3 => contradiction
  | case4 c tail _ hplain ih =>
    obtain ⟨_, hnext⟩ := exists_of_map_push h
    refine (ih hnext).cons (isForbidden_of_not_isControl ?_)
    simp_all

/-- A string between three quotation marks is clean in front of what is. -/
theorem clean_of_readMultilineBasic (h : readMultilineBasic s = some (content, rest))
    (hrest : Clean rest) : Clean s := by
  fun_induction readMultilineBasic s generalizing content with
  | case1 => contradiction
  | case2 tail =>
    have htail := clean_of_closeMultiline (by decide) (Option.some.inj h) hrest
    exact ((htail.cons (by decide)).cons (by decide)).cons (by decide)
  | case3 tail next hskip _ ih => exact (clean_of_skipLineEnd? hskip (ih h)).cons (by decide)
  | case4 tail hskip c next hread _ ih =>
    obtain ⟨_, hnext⟩ := exists_of_map_push h
    exact (clean_of_readEscape hread (ih hnext)).cons (by decide)
  | case5 => contradiction
  | case6 tail ih =>
    obtain ⟨_, hreturn⟩ := exists_of_map_push h
    obtain ⟨_, hnext⟩ := exists_of_map_push hreturn
    exact ((ih hnext).cons (by decide)).cons (by decide)
  | case7 => contradiction
  | case8 c tail _ _ _ hplain ih =>
    obtain ⟨_, hnext⟩ := exists_of_map_push h
    refine (ih hnext).cons (isForbidden_of_not_isControl ?_)
    simp_all

/-- A string between three apostrophes is clean in front of what is. -/
theorem clean_of_readMultilineLiteral (h : readMultilineLiteral s = some (content, rest))
    (hrest : Clean rest) : Clean s := by
  fun_induction readMultilineLiteral s generalizing content with
  | case1 => contradiction
  | case2 tail =>
    have htail := clean_of_closeMultiline (by decide) (Option.some.inj h) hrest
    exact ((htail.cons (by decide)).cons (by decide)).cons (by decide)
  | case3 tail ih =>
    obtain ⟨_, hreturn⟩ := exists_of_map_push h
    obtain ⟨_, hnext⟩ := exists_of_map_push hreturn
    exact ((ih hnext).cons (by decide)).cons (by decide)
  | case4 => contradiction
  | case5 c tail _ _ hplain ih =>
    obtain ⟨_, hnext⟩ := exists_of_map_push h
    refine (ih hnext).cons (isForbidden_of_not_isControl ?_)
    simp_all

/-- A quoted string is clean. -/
theorem clean_of_isString (h : IsString content s) : Clean s := by
  unfold IsString read? at h
  split at h
  case h_1 =>
    have hbody := clean_of_dropNewline (clean_of_readMultilineBasic h clean_nil)
    exact ((hbody.cons (by decide)).cons (by decide)).cons (by decide)
  case h_2 => exact (clean_of_readBasic h clean_nil).cons (by decide)
  case h_3 =>
    have hbody := clean_of_dropNewline (clean_of_readMultilineLiteral h clean_nil)
    exact ((hbody.cons (by decide)).cons (by decide)).cons (by decide)
  case h_4 => exact (clean_of_readLiteral h clean_nil).cons (by decide)
  case h_5 => contradiction

end Quoted

/-! ## Scalars -/

section Scalars

variable {s : List Char}

/-- Digits are clean, and so are the underscores between them. -/
theorem Digits.clean {digit : Char → Bool} (hdigit : ∀ c, digit c = true → isForbidden c = false)
    (h : Digits digit s) : Clean s := by
  induction h with
  | one hc => exact clean_nil.cons (hdigit _ hc)
  | next hc _ ih => exact ih.cons (hdigit _ hc)
  | apart hc _ ih => exact (ih.cons (by decide)).cons (hdigit _ hc)

/-- Decimal digits are clean. -/
theorem Digits.clean_decimal (h : Digits Char.isDigit s) : Clean s :=
  h.clean fun _ hc => isForbidden_of_isDigit hc

/-- A sign is clean. -/
theorem IsSign.clean (h : IsSign s) : Clean s := by
  rcases h with rfl | rfl | rfl <;> decide

/-- Integers are clean. -/
theorem IsInteger.clean (h : IsInteger s) : Clean s := by
  cases h with
  | nonneg hsign hdigits _ =>
    refine Clean.append ?_ hdigits.isDigits.clean_decimal
    rcases hsign with rfl | rfl <;> decide
  | neg hdigits _ => exact hdigits.isDigits.clean_decimal.cons (by decide)
  | based hbase hdigits _ =>
    refine ((hdigits.clean fun c hc => ?_).cons ?_).cons (by decide)
    · apply isForbidden_of_hexValue?
      cases hvalue : Quoted.hexValue? c with
      | none => simp [hvalue] at hc
      | some => rfl
    · simp only [bases, List.mem_cons, Prod.mk.injEq, List.not_mem_nil, or_false] at hbase
      rcases hbase with ⟨rfl, -⟩ | ⟨rfl, -⟩ | ⟨rfl, -⟩ <;> decide

/-- Fractions are clean. -/
theorem IsFraction.clean (h : IsFraction s) : Clean s := by
  obtain ⟨digits, rfl, hdigits⟩ := h
  exact hdigits.clean_decimal.cons (by decide)

/-- Exponents are clean. -/
theorem IsExponent.clean (h : IsExponent s) : Clean s := by
  obtain ⟨mark, sign, digits, rfl, hmark, hsign, hdigits⟩ := h
  refine (hsign.clean.append hdigits.clean_decimal).cons ?_
  rcases hmark with rfl | rfl <;> decide

/-- Floating point numbers are clean. -/
theorem IsFloat.clean (h : IsFloat s) : Clean s := by
  cases h with
  | fraction hsign hwhole hfraction =>
    exact (hsign.clean.append hwhole.isDigits.clean_decimal).append hfraction.clean
  | exponent hsign hwhole hexponent =>
    exact (hsign.clean.append hwhole.isDigits.clean_decimal).append hexponent.clean
  | both hsign hwhole hfraction hexponent =>
    exact ((hsign.clean.append hwhole.isDigits.clean_decimal).append hfraction.clean).append
      hexponent.clean
  | special hsign hword =>
    refine hsign.clean.append ?_
    rcases hword with rfl | rfl <;> decide

/-- Numerals of a fixed width are clean. -/
theorem IsNumeral.clean {width least greatest : Nat} (h : IsNumeral width least greatest s) :
    Clean s :=
  fun c hc => isForbidden_of_isDigit (h.areDigits c hc)

/-- Days are clean. -/
theorem IsDate.clean (h : IsDate s) : Clean s := by
  obtain ⟨hyear, hmonth, hday⟩ := h
  exact (hyear.clean.append (hmonth.clean.cons (by decide))).append (hday.clean.cons (by decide))

/-- Hours and minutes are clean. -/
theorem IsClock.clean (h : IsClock s) : Clean s := by
  obtain ⟨hhour, hminute⟩ := h
  exact hhour.clean.append (hminute.clean.cons (by decide))

/-- Times are clean. -/
theorem IsTime.clean (h : IsTime s) : Clean s := by
  cases h with
  | seconds hclock hsecond => exact hclock.clean.append (hsecond.clean.cons (by decide))
  | fraction hclock hsecond hne hdigits =>
    have hfraction : Clean _ := fun c hc => isForbidden_of_isDigit (hdigits c hc)
    exact (hclock.clean.append (hsecond.clean.cons (by decide))).append
      (hfraction.cons (by decide))

/-- Offsets are clean. -/
theorem IsOffset.clean (h : IsOffset s) : Clean s := by
  cases h with
  | universal hc => rcases hc with rfl | rfl <;> decide
  | signed hsign hclock =>
    refine hclock.clean.cons ?_
    rcases hsign with rfl | rfl <;> decide

/-- Days and times are clean. -/
theorem IsDateTime.clean (h : IsDateTime s) : Clean s := by
  have hmark {mark : Char} (h : mark = 'T' ∨ mark = 't' ∨ mark = ' ') :
      isForbidden mark = false := by
    rcases h with rfl | rfl | rfl <;> decide
  cases h with
  | date hdate => exact hdate.clean
  | time htime => exact htime.clean
  | dateTime hdate hmark' htime => exact hdate.clean.append (htime.clean.cons (hmark hmark'))
  | offset hdate hmark' htime hoffset =>
    exact (hdate.clean.append (htime.clean.cons (hmark hmark'))).append hoffset.clean

/-- Scalars are clean. -/
theorem IsScalar.clean (h : IsScalar s) : Clean s := by
  cases h with
  | string h => exact clean_of_isString h
  | boolean h => rcases h with rfl | rfl <;> decide
  | integer h => exact h.clean
  | float h => exact h.clean
  | dateTime h => exact h.clean

end Scalars

/-! ## Documents -/

section Documents

variable {s : List Char}

/-- Blanks are clean. -/
theorem IsBlanks.clean (h : IsBlanks s) : Clean s := fun c hc => isForbidden_of_isSpace (h c hc)

/-- Ends of lines are clean. -/
theorem IsNewline.clean (h : IsNewline s) : Clean s := by
  rcases h with rfl | rfl <;> decide

/-- Comments are clean. -/
theorem IsComment.clean (h : IsComment s) : Clean s := by
  obtain ⟨text, rfl, htext⟩ := h
  have hclean : Clean text := fun c hc => isForbidden_of_not_isControl (htext c hc).1
  exact hclean.cons (by decide)

/-- What stands at the end of a line is clean. -/
theorem IsEnding.clean (h : IsEnding s) : Clean s := by
  cases h with
  | blanks hblanks => exact hblanks.clean
  | comment hblanks hcomment => exact hblanks.clean.append hcomment.clean

/-- Layout is clean. -/
theorem IsLayout.clean (h : IsLayout s) : Clean s := by
  induction h with
  | nil => exact clean_nil
  | blank hc _ ih => exact ih.cons (isForbidden_of_isSpace hc)
  | newline hnewline _ ih => exact hnewline.clean.append ih
  | comment hcomment hnewline _ ih => exact (hcomment.clean.append hnewline.clean).append ih

/-- Names are clean. -/
theorem IsName.clean {name : String} (h : IsName name s) : Clean s := by
  cases h with
  | bare _ hchars => exact fun c hc => isForbidden_of_isNameChar (hchars c hc)
  | quoted hstring _ => exact clean_of_isString hstring

/-- Keys are clean. -/
theorem IsKey.clean {key : List String} (h : IsKey key s) : Clean s := by
  induction h with
  | name hname => exact hname.clean
  | dotted hname hbefore hafter _ ih =>
    exact ((hname.clean.append hbefore.clean).append (hafter.clean.cons (by decide))).append ih

/-- Values are clean. -/
theorem Spells.clean {part : Part} (h : Spells part s) : Clean s := by
  induction h with
  | scalar h => exact h.clean
  | array _ ih => exact (ih.cons (by decide)).append (by decide)
  | table _ _ ih => exact (ih.cons (by decide)).append (by decide)
  | setting hkey hbefore hafter _ ih =>
    exact ((hkey.clean.append hbefore.clean).append (hafter.clean.cons (by decide))).append ih
  | noValue hlayout => exact hlayout.clean
  | lastValue hbefore _ hafter ih => exact (hbefore.clean.append ih).append hafter.clean
  | nextValue hbefore _ hafter _ ih ihrest =>
    exact ((hbefore.clean.append ih).append hafter.clean).append (ihrest.cons (by decide))
  | noSetting hblanks => exact hblanks.clean
  | lastSetting hbefore _ hafter ih => exact (hbefore.clean.append ih).append hafter.clean
  | nextSetting hbefore _ hafter _ ih ihrest =>
    exact ((hbefore.clean.append ih).append hafter.clean).append (ihrest.cons (by decide))

/-- Lines are clean. -/
theorem IsLine.clean {expression : Option Expression} (h : IsLine expression s) : Clean s := by
  cases h with
  | nothing hending => exact hending.clean
  | setting hblanks hsetting hending =>
    exact (hblanks.clean.append hsetting.clean).append hending.clean
  | table hblanks hbefore hkey hafter hending =>
    exact (((hblanks.clean.append (hbefore.clean.cons (by decide))).append hkey.clean).append
      hafter.clean).append (hending.clean.cons (by decide))
  | member hblanks hbefore hkey hafter hending =>
    exact (((hblanks.clean.append ((hbefore.clean.cons (by decide)).cons (by decide))).append
      hkey.clean).append hafter.clean).append ((hending.clean.cons (by decide)).cons (by decide))

/-- **No forbidden character stands in a document.** -/
theorem IsDocument.clean {expressions : List Expression} (h : IsDocument expressions s) :
    Clean s := by
  induction h with
  | line h => exact h.clean
  | lines h hnewline _ ih => exact (h.clean.append hnewline.clean).append ih

end Documents

end ClusterConfig.Toml
