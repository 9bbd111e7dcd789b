/-
# Quoted strings read back

Main statement: a written text followed by anything but a quotation mark or an apostrophe is
read back, and what followed is left over (`read?_encode`).

The proof follows the four forms. Where quotation marks stand as they are between three of them, no
three come in a row before the end, so that the reader sees the closing delimiter only there.
-/
import ClusterConfig.Text.Quoted.Reader

namespace ClusterConfig.Text.Quoted

/-! ## Escapes -/

/-- A hexadecimal digit has the value that it is written for. -/
theorem hexValue?_hexDigit {n : Nat} (h : n < 16) : hexValue? (hexDigit n) = some n :=
  (by decide : ∀ n < 16, hexValue? (hexDigit n) = some n) n h

/-- Four digits have the number they are written for as their value. -/
theorem hexNumber?_hexDigits {n : Nat} (h : n < 65536) : hexNumber? (hexDigits n) = some n := by
  have hvalue : ∀ k, hexValue? (hexDigit (k % 16)) = some (k % 16) :=
    fun k => hexValue?_hexDigit (Nat.mod_lt k (by decide))
  simp [hexNumber?, hexDigits, hvalue]
  omega

/-- Every character has a code point of its own. -/
theorem scalar?_toNat (c : Char) : scalar? c.toNat = some c := by
  have hvalid : c.toNat.isValidChar := c.valid
  rw [scalar?, if_pos hvalid, Char.ofNat_toNat]

/-- Control characters have four digits. -/
theorem toNat_lt_of_isControl {c : Char} (h : isControl c = true) : c.toNat < 65536 := by
  simp only [isControl, Bool.or_eq_true, Bool.and_eq_true, decide_eq_true_eq, beq_iff_eq] at h
  omega

/-- Where no line end comes next, none is dropped. -/
theorem dropNewline_cons {c : Char} (rest : List Char) (hfeed : c ≠ '\n') (hreturn : c ≠ '\r') :
    dropNewline (c :: rest) = c :: rest := by
  unfold dropNewline
  split <;> simp_all

/-- No end of a line is skipped where neither a blank nor a line end comes next. -/
theorem skipLineEnd?_cons {c : Char} (rest : List Char) (hspace : isSpace c = false)
    (hfeed : c ≠ '\n') (hreturn : c ≠ '\r') : skipLineEnd? (c :: rest) = none := by
  have hdrop : (c :: rest).dropWhile isSpace = c :: rest := by simp [hspace]
  simp [skipLineEnd?, startsWithNewline, hdrop, dropNewline_cons rest hfeed hreturn]

/-- What is written for a character is the character itself or an escape that reads to it. -/
theorem escapeChar_cases (c : Char) :
    (escapeChar c = [c] ∧ isControl c = false ∧ c ≠ '\\' ∧ c ≠ '\n') ∨
      ∃ escape, escapeChar c = '\\' :: escape ∧ ∀ rest,
        readEscape (escape ++ rest) = some (c, rest) ∧ skipLineEnd? (escape ++ rest) = none := by
  unfold escapeChar
  split
  case h_1 =>
    exact .inr ⟨['b'], rfl, fun rest => ⟨rfl, skipLineEnd?_cons rest rfl (by decide) (by decide)⟩⟩
  case h_2 =>
    exact .inr ⟨['t'], rfl, fun rest => ⟨rfl, skipLineEnd?_cons rest rfl (by decide) (by decide)⟩⟩
  case h_3 =>
    exact .inr ⟨['n'], rfl, fun rest => ⟨rfl, skipLineEnd?_cons rest rfl (by decide) (by decide)⟩⟩
  case h_4 =>
    exact .inr ⟨['f'], rfl, fun rest => ⟨rfl, skipLineEnd?_cons rest rfl (by decide) (by decide)⟩⟩
  case h_5 =>
    exact .inr ⟨['r'], rfl, fun rest => ⟨rfl, skipLineEnd?_cons rest rfl (by decide) (by decide)⟩⟩
  case h_6 =>
    exact .inr ⟨['\\'], rfl, fun rest => ⟨rfl, skipLineEnd?_cons rest rfl (by decide) (by decide)⟩⟩
  case h_7 _ _ hnewline _ _ hbackslash =>
    split
    · next hcontrol =>
      refine .inr ⟨'u' :: hexDigits c.toNat, rfl, fun rest =>
        ⟨?_, skipLineEnd?_cons _ rfl (by decide) (by decide)⟩⟩
      have htake : (hexDigits c.toNat ++ rest).take 4 = hexDigits c.toNat := by simp [hexDigits]
      have hdrop : (hexDigits c.toNat ++ rest).drop 4 = rest := by simp [hexDigits]
      have hlength : ¬ (hexDigits c.toNat ++ rest).length < 4 := by simp [hexDigits]
      rw [List.cons_append, readEscape, readCodePoint, if_neg hlength, htake, hdrop,
        hexNumber?_hexDigits (toNat_lt_of_isControl hcontrol)]
      simp [scalar?_toNat]
    · next hcontrol =>
      exact .inl ⟨rfl, by simpa using hcontrol, hbackslash, hnewline⟩

/-! ## One line -/

/-- A text between single quotation marks is read back. -/
theorem readBasic_escape (s rest : List Char) :
    readBasic (escape s ++ '"' :: rest) = some (s, rest) := by
  induction s with
  | nil => exact readBasic_quote rest
  | cons c s ih =>
    rw [escape]
    split
    · next hquote =>
      subst hquote
      exact (readBasic_escaped rfl).trans (by simp [ih, push])
    · next hquote =>
      rcases escapeChar_cases c with ⟨hself, hcontrol, hbackslash, hnewline⟩ | ⟨e, hescape, hread⟩
      · rw [hself, List.append_assoc, List.singleton_append,
          readBasic_plain hquote hbackslash hcontrol hnewline, ih]
        rfl
      · rw [hescape, List.cons_append, List.cons_append, List.append_assoc,
          readBasic_escaped (hread _).1, ih]
        rfl

/-- A text without apostrophes, line feeds and control characters is read back between
apostrophes. -/
theorem readLiteral_append {s : List Char} (rest : List Char)
    (h : ∀ c ∈ s, isControl c = false ∧ c ≠ '\'' ∧ c ≠ '\n') :
    readLiteral (s ++ '\'' :: rest) = some (s, rest) := by
  induction s with
  | nil => rfl
  | cons c s ih =>
    obtain ⟨hcontrol, hquote, hnewline⟩ := h c (by simp)
    rw [List.cons_append, readLiteral, ih fun d hd => h d (List.mem_cons_of_mem c hd)]
    · simp [hcontrol, hnewline, push]
    · exact hquote

/-! ## Several lines -/

/-- Delimiters right before the closing ones belong to the content. -/
theorem closeMultiline_append {q : Char} {s rest : List Char} (hs : ∀ c ∈ s, c = q)
    (hlength : s.length ≤ 2) (hrest : rest.head? ≠ some q) :
    closeMultiline q (s ++ rest) = (s, rest) := by
  have htake : ((s ++ rest).take 2).takeWhile (· = q) = s := by
    rcases s with _ | ⟨a, _ | ⟨b, _ | ⟨c, s⟩⟩⟩
    · rcases rest with _ | ⟨d, rest⟩ <;> simp_all
    · rcases rest with _ | ⟨d, rest⟩ <;> simp_all
    · simp_all
    · simp at hlength
  simp [closeMultiline, htake]

/-- A run that is at most two long so far goes on as long as the text allows. -/
theorem le_longestRun (q : Char) (run : Nat) (s : List Char) : run ≤ longestRun q run s := by
  induction s generalizing run with
  | nil => exact Nat.le_refl run
  | cons c s ih =>
    rw [longestRun]
    split
    · exact Nat.le_trans (Nat.le_succ run) (ih (run + 1))
    · exact Nat.le_max_left _ _

/-- Delimiters that end the content are read together with the closing ones. -/
theorem readMultilineLiteral_end {s rest : List Char} (hs : s = [] ∨ s = ['\''] ∨ s = ['\'', '\''])
    (hrest : rest.head? ≠ some '\'') :
    readMultilineLiteral (s ++ '\'' :: '\'' :: '\'' :: rest) = some (s, rest) := by
  rcases hs with rfl | rfl | rfl
  all_goals
    refine (readMultilineLiteral_quotes _).trans (congrArg some ?_)
  · exact closeMultiline_append (s := []) nofun (by decide) hrest
  · exact closeMultiline_append (s := ['\'']) (by simp) (by decide) hrest
  · exact closeMultiline_append (s := ['\'', '\'']) (by simp) (by decide) hrest

/-- A text without control characters in which no three apostrophes stand in a row is read back
between three of them. -/
theorem readMultilineLiteral_append {s rest : List Char} (run : Nat)
    (hcontrol : ∀ c ∈ s, isControl c = false) (hrun : longestRun '\'' run s ≤ 2)
    (hrest : rest.head? ≠ some '\'') :
    readMultilineLiteral (s ++ '\'' :: '\'' :: '\'' :: rest) = some (s, rest) := by
  induction s generalizing run with
  | nil => exact readMultilineLiteral_end (.inl rfl) hrest
  | cons c s ih =>
    have htail : ∀ d ∈ s, isControl d = false := fun d hd => hcontrol d (List.mem_cons_of_mem c hd)
    rw [longestRun] at hrun
    by_cases hquote : c = '\''
    · subst hquote
      rw [if_pos rfl] at hrun
      -- An apostrophe is one of the last two, or it does not begin three in a row.
      by_cases hend : s = [] ∨ s = ['\'']
      · refine readMultilineLiteral_end (.inr ?_) hrest
        simpa using hend
      · have hplain : ∀ tail, s ++ '\'' :: '\'' :: '\'' :: rest ≠ '\'' :: '\'' :: tail := by
          intro tail heq
          rcases s with _ | ⟨d, _ | ⟨e, s⟩⟩
          · simp at hend
          · simp_all
          · -- Three apostrophes in a row would be a run that is too long.
            obtain ⟨rfl, rfl⟩ : d = '\'' ∧ e = '\'' := by simp_all
            have hlong := le_longestRun '\'' (run + 1 + 1 + 1) s
            simp only [longestRun, if_true] at hrun
            omega
        rw [List.cons_append, readMultilineLiteral_plain (fun _ => hplain) (by decide),
          ih (run + 1) htail hrun]
        rfl
    · rw [if_neg hquote] at hrun
      rw [List.cons_append,
        readMultilineLiteral_plain (fun h => absurd h hquote) (hcontrol c (by simp)),
        ih 0 htail (Nat.le_trans (Nat.le_max_right _ _) hrun)]
      rfl

/-- Quotation marks that end the content are read together with the closing ones. -/
theorem readMultilineBasic_end {s rest : List Char} (hs : s = [] ∨ s = ['"'] ∨ s = ['"', '"'])
    (hrest : rest.head? ≠ some '"') :
    readMultilineBasic (s ++ '"' :: '"' :: '"' :: rest) = some (s, rest) := by
  rcases hs with rfl | rfl | rfl
  all_goals
    refine (readMultilineBasic_quotes _).trans (congrArg some ?_)
  · exact closeMultiline_append (s := []) nofun (by decide) hrest
  · exact closeMultiline_append (s := ['"']) (by simp) (by decide) hrest
  · exact closeMultiline_append (s := ['"', '"']) (by simp) (by decide) hrest

/-- What is written for a character other than a quotation mark does not begin with one. -/
theorem head?_escapeChar_append {c : Char} (hquote : c ≠ '"') (rest : List Char) :
    (escapeChar c ++ rest).head? ≠ some '"' := by
  rcases escapeChar_cases c with ⟨hself, _⟩ | ⟨e, hescape, _⟩
  · simp [hself, hquote]
  · simp [hescape]

/-- After two quotation marks, or where no quotation mark comes next, what is written does not
begin with one. -/
theorem head?_escapeMultiline_append {quotes : Nat} {c : Char} (s rest : List Char)
    (h : c = '"' → 2 ≤ quotes) : (escapeMultiline quotes (c :: s) ++ rest).head? ≠ some '"' := by
  rw [escapeMultiline]
  split
  · next hquote => simp [Nat.not_lt.mpr (h hquote)]
  · next hquote =>
    split
    · simp
    · rw [List.append_assoc]
      exact head?_escapeChar_append hquote _

/-- After a quotation mark, no two of them are written as they are unless the content ends there. -/
theorem escapeMultiline_append_ne {quotes : Nat} {s rest : List Char} (hquotes : 1 ≤ quotes)
    (hs : ¬ (s = [] ∨ s = ['"'] ∧ quotes < 2)) (tail : List Char) :
    escapeMultiline quotes s ++ '"' :: '"' :: '"' :: rest ≠ '"' :: '"' :: tail := by
  intro heq
  cases s with
  | nil => simp at hs
  | cons c s =>
    by_cases h : c = '"' → 2 ≤ quotes
    · exact head?_escapeMultiline_append s _ h (congrArg List.head? heq)
    · rw [Classical.not_imp, Nat.not_le] at h
      obtain ⟨rfl, hfew⟩ := h
      rw [escapeMultiline, if_pos rfl, if_pos hfew, List.cons_append] at heq
      cases s with
      | nil => exact hs (.inr ⟨rfl, hfew⟩)
      | cons d s =>
        have htail := (List.cons.inj heq).2
        exact head?_escapeMultiline_append s _ (fun _ => Nat.succ_le_succ hquotes)
          (congrArg List.head? htail)

/-- A text is read back between three quotation marks. -/
theorem readMultilineBasic_escapeMultiline (quotes : Nat) {s rest : List Char}
    (hrest : rest.head? ≠ some '"') :
    readMultilineBasic (escapeMultiline quotes s ++ '"' :: '"' :: '"' :: rest) =
      some (s, rest) := by
  induction s generalizing quotes with
  | nil => exact readMultilineBasic_end (.inl rfl) hrest
  | cons c s ih =>
    rw [escapeMultiline]
    split
    · next hquote =>
      subst hquote
      split
      · next hfew =>
        -- A quotation mark stands for itself only where no two others follow it, or at the end.
        by_cases hend : s = [] ∨ s = ['"'] ∧ quotes + 1 < 2
        · rcases hend with rfl | ⟨rfl, hfew⟩
          · exact readMultilineBasic_end (s := ['"']) (by simp) hrest
          · rw [escapeMultiline, if_pos rfl, if_pos hfew]
            exact readMultilineBasic_end (s := ['"', '"']) (by simp) hrest
        · rw [List.cons_append, readMultilineBasic_plain
            (fun _ => escapeMultiline_append_ne (Nat.le_add_left 1 quotes) hend) (by decide)
            (by decide), ih]
          rfl
      · -- The third quotation mark in a row is escaped.
        have hskip : ∀ t, skipLineEnd? ('"' :: t) = none :=
          fun t => skipLineEnd?_cons t rfl (by decide) (by decide)
        exact (readMultilineBasic_escaped (hskip _) rfl).trans (by simp [ih, push])
    · next hquote =>
      split
      · next hnewline =>
        subst hnewline
        rw [List.append_assoc, List.singleton_append, readMultilineBasic_plain
          (fun h => absurd h hquote) (by decide) (by decide), ih]
        rfl
      · rcases escapeChar_cases c with ⟨hself, hcontrol, hbackslash, _⟩ | ⟨e, hescape, hread⟩
        · rw [hself, List.append_assoc, List.singleton_append,
            readMultilineBasic_plain (fun h => absurd h hquote) hbackslash hcontrol, ih]
          rfl
        · rw [hescape, List.cons_append, List.cons_append, List.append_assoc,
            readMultilineBasic_escaped (hread _).2 (hread _).1, ih]
          rfl

/-! ## All forms -/

/-- What is written between single apostrophes can stand there as it is. -/
theorem Form.of_choose_literal {s : List Char} (h : Form.choose s = .literal) :
    ∀ c ∈ s, isControl c = false ∧ c ≠ '\'' ∧ c ≠ '\n' := by
  have hfree : s.any isControl = false ∧ '\'' ∉ s ∧ '\n' ∉ s := by
    unfold Form.choose at h
    grind
  intro c hc
  exact ⟨by simpa using List.any_eq_false.mp hfree.1 c hc,
    fun heq => hfree.2.1 (heq ▸ hc), fun heq => hfree.2.2 (heq ▸ hc)⟩

/-- What is written between three apostrophes can stand there as it is. -/
theorem Form.of_choose_multilineLiteral {s : List Char} (h : Form.choose s = .multilineLiteral) :
    (∀ c ∈ s, isControl c = false) ∧ longestRun '\'' 0 s ≤ 2 := by
  have hfree : s.any isControl = false ∧ longestRun '\'' 0 s ≤ 2 := by
    unfold Form.choose at h
    grind
  exact ⟨fun c hc => by simpa using List.any_eq_false.mp hfree.1 c hc, hfree.2⟩

/-- A line end that is written after the opening delimiter, and no other, is dropped. -/
theorem dropNewline_opening {s body : List Char}
    (hbody : '\n' ∉ s → body.head? ≠ some '\n' ∧ body.head? ≠ some '\r') :
    dropNewline ((if s.contains '\n' then ['\n'] else []) ++ body) = body := by
  split
  · rfl
  · next hnewline =>
    obtain ⟨hfeed, hreturn⟩ := hbody (by simpa using hnewline)
    rcases body with _ | ⟨c, body⟩
    · rfl
    · exact dropNewline_cons body (by simpa using hfeed) (by simpa using hreturn)

/-- A carriage return is a control character. -/
theorem ne_return_of_isControl {c : Char} (h : isControl c = false) : c ≠ '\r' := by
  rintro rfl
  exact absurd h (by decide)

/-- **A written text is read back.** -/
theorem read?_encode (s : List Char) {rest : List Char} (hquote : rest.head? ≠ some '"')
    (hapostrophe : rest.head? ≠ some '\'') : read? (encode s ++ rest) = some (s, rest) := by
  cases hform : Form.choose s with
  | basic =>
    have htext : encode s ++ rest = '"' :: (escape s ++ '"' :: rest) := by
      simp [encode, hform, Form.opening, Form.delimiter, Form.isMultiline, Form.body]
    have hplain : ∀ tail, escape s ++ '"' :: rest ≠ '"' :: '"' :: tail := by
      intro tail heq
      rcases s with _ | ⟨c, s⟩
      · exact hquote (congrArg List.head? (List.cons.inj heq).2)
      · rw [escape] at heq
        split at heq
        · simp at heq
        · next hc =>
          rw [List.append_assoc] at heq
          exact head?_escapeChar_append hc _ (congrArg List.head? heq)
    rw [htext, read?_quote hplain, readBasic_escape]
  | literal =>
    have htext : encode s ++ rest = '\'' :: (s ++ '\'' :: rest) := by
      simp [encode, hform, Form.opening, Form.delimiter, Form.isMultiline, Form.body]
    have hfree := Form.of_choose_literal hform
    have hplain : ∀ tail, s ++ '\'' :: rest ≠ '\'' :: '\'' :: tail := by
      intro tail heq
      rcases s with _ | ⟨c, s⟩
      · exact hapostrophe (congrArg List.head? (List.cons.inj heq).2)
      · exact (hfree c (by simp)).2.1 (List.cons.inj heq).1
    rw [htext, read?_apostrophe hplain, readLiteral_append rest hfree]
  | multilineBasic =>
    have htext : encode s ++ rest = '"' :: '"' :: '"' ::
        ((if s.contains '\n' then ['\n'] else []) ++
          (escapeMultiline 0 s ++ '"' :: '"' :: '"' :: rest)) := by
      simp [encode, hform, Form.opening, Form.delimiter, Form.isMultiline, Form.body]
    rw [htext, read?, dropNewline_opening, readMultilineBasic_escapeMultiline 0 hquote]
    intro hnewline
    rcases s with _ | ⟨c, s⟩
    · simp [escapeMultiline]
    · rw [escapeMultiline]
      have hc : c ≠ '\n' := fun heq => hnewline (by simp [heq])
      split
      · simp
      · rcases escapeChar_cases c with ⟨hself, hcontrol, _⟩ | ⟨e, hescape, _⟩
        · simp [hc, hself, ne_return_of_isControl hcontrol]
        · simp [hescape]
  | multilineLiteral =>
    have htext : encode s ++ rest = '\'' :: '\'' :: '\'' ::
        ((if s.contains '\n' then ['\n'] else []) ++ (s ++ '\'' :: '\'' :: '\'' :: rest)) := by
      simp [encode, hform, Form.opening, Form.delimiter, Form.isMultiline, Form.body]
    obtain ⟨hcontrol, hrun⟩ := Form.of_choose_multilineLiteral hform
    rw [htext, read?, dropNewline_opening, readMultilineLiteral_append 0 hcontrol hrun hapostrophe]
    intro hnewline
    rcases s with _ | ⟨c, s⟩
    · simp
    · have hc : c ≠ '\n' := fun heq => hnewline (by simp [heq])
      simp [hc, ne_return_of_isControl (hcontrol c (by simp))]

/-- A written text that stands alone is read back. -/
theorem read?_encode_self (s : List Char) : read? (encode s) = some (s, []) := by
  have hend : ∀ quote : Char, ([] : List Char).head? ≠ some quote := by simp
  have hread := read?_encode s (hend '"') (hend '\'')
  rwa [List.append_nil] at hread

end ClusterConfig.Text.Quoted
