/-
# Cutting a source into key lines

What the key lines of a text are, without the function that cuts them off: lines up to a rest that
starts with a blank line. Main statement: these conditions hold of the key lines and determine them,
so nothing is lost and nothing is invented; and keys that are written on a line each are read back
(`exists_isCut_iff_eq_keyLines`).

A text is cut at its first line feed. The line before it is blank and ends the keys, or it is the
first key line and the others are those of what comes after (`keyLines_append_newline`). Both
directions are inductions along this cut.
-/
import ClusterConfig.Proofs.Text.KeySources

namespace ClusterConfig.Text

/-! ## Cuts -/

/-- A text that starts with a blank line: carriage returns or none of them, and then a line feed or
the end of the text. -/
inductive StartsBlank : List Char → Prop
  | atEnd (returns : Nat) : StartsBlank (List.replicate returns '\r')
  | line (returns : Nat) (rest : List Char) :
    StartsBlank (List.replicate returns '\r' ++ '\n' :: rest)

/-- A text is cut into lines and a rest. -/
structure IsCut (s : List Char) (cut : List (List Char)) (rest : List Char) : Prop where
  concat : s = cut.flatten ++ rest
  full : ∀ line ∈ cut, dropTerminator line ≠ []
  oneLine : ∀ line ∈ cut, '\n' ∉ line.dropLast
  /-- Only the last line may lack its line feed, and only at the end of the text. -/
  ended : ∀ before line after, cut = before ++ line :: after →
    line.getLast? = some '\n' ∨ after = [] ∧ rest = []
  stop : StartsBlank rest

namespace IsCut

variable {s rest line : List Char} {cut : List (List Char)}

/-- Where a blank line is ahead, nothing is cut off. -/
theorem nil (h : StartsBlank s) : IsCut s [] s where
  concat := rfl
  full _ hline := absurd hline List.not_mem_nil
  oneLine _ hline := absurd hline List.not_mem_nil
  ended before line after heq := by simp at heq
  stop := h

/-- A text without line feed is a line to its end. -/
theorem singleton (hfull : dropTerminator line ≠ []) (hfeed : '\n' ∉ line) :
    IsCut line [line] [] := by
  refine ⟨by simp, by simpa using hfull, ?_, ?_, .atEnd 0⟩
  · intro other hother
    obtain rfl := List.mem_singleton.mp hother
    exact fun hmem => hfeed (List.dropLast_subset _ hmem)
  · intro before other after heq
    right
    have hlength : (before ++ other :: after).length = 1 := heq ▸ rfl
    rw [List.length_append, List.length_cons] at hlength
    exact ⟨List.eq_nil_of_length_eq_zero (by omega), rfl⟩

/-- A line with its line feed is cut off in front. -/
theorem cons (hfull : dropTerminator (line ++ ['\n']) ≠ []) (hfeed : '\n' ∉ line)
    (h : IsCut s cut rest) : IsCut (line ++ '\n' :: s) ((line ++ ['\n']) :: cut) rest := by
  refine ⟨?_, ?_, ?_, ?_, h.stop⟩
  · rw [List.flatten_cons, h.concat]
    simp
  · exact List.forall_mem_cons.mpr ⟨hfull, h.full⟩
  · refine List.forall_mem_cons.mpr ⟨?_, h.oneLine⟩
    rwa [List.dropLast_concat]
  · intro before other after heq
    cases before with
    | nil =>
      left
      obtain ⟨rfl, -⟩ := List.cons.inj heq
      simp
    | cons first before => exact h.ended before other after (List.cons.inj heq).2

/-- What comes after the first line is cut as before. -/
theorem tail (h : IsCut s (line :: cut) rest) : IsCut (cut.flatten ++ rest) cut rest where
  concat := rfl
  full other hother := h.full other (List.mem_cons_of_mem line hother)
  oneLine other hother := h.oneLine other (List.mem_cons_of_mem line hother)
  ended before other after heq := h.ended (line :: before) other after (by rw [heq]; rfl)
  stop := h.stop

end IsCut

/-! ## The cut of the key lines -/

/-- No key line starts where a blank line is ahead. -/
theorem keyLines_of_startsBlank {s : List Char} (h : StartsBlank s) : keyLines s = [] := by
  cases h with
  | atEnd returns => exact keyLines_replicate returns
  | line returns rest => exact keyLines_blank returns rest

/-- A text of terminators without line feed is made of carriage returns. -/
theorem eq_replicate_of_dropTerminator_eq_nil {line : List Char} (hfeed : '\n' ∉ line)
    (h : dropTerminator line = []) : line = List.replicate line.length '\r' := by
  rw [← dropReturns_eq_dropTerminator hfeed, List.rdropWhile_eq_nil_iff] at h
  exact List.eq_replicate_of_mem fun c hc => by simpa using h c hc

/-- The key lines are a cut of their text. -/
theorem exists_isCut_keyLines (s : List Char) : ∃ rest, IsCut s (keyLines s) rest := by
  induction hlength : s.length using Nat.strongRecOn generalizing s with
  | ind length ih =>
    by_cases hmem : '\n' ∈ s
    · obtain ⟨line, rest, rfl, hfeed⟩ := List.eq_append_cons_of_mem hmem
      by_cases hfull : dropTerminator (line ++ ['\n']) = []
      · -- The first line is blank, so all of the text is left.
        have hline : dropTerminator line = [] := by
          rwa [← dropTerminator_append_lineEnd line .lineFeed]
        have hstart : StartsBlank (line ++ '\n' :: rest) := by
          rw [eq_replicate_of_dropTerminator_eq_nil hfeed hline]
          exact .line _ rest
        exact ⟨_, keyLines_of_startsBlank hstart ▸ IsCut.nil hstart⟩
      · obtain ⟨left, hleft⟩ := ih rest.length (by simp [← hlength]; omega) rest rfl
        have hlines := keyLines_append_newline hfeed (isBlankLine_eq_false_iff.mpr hfull) rest
        exact ⟨left, hlines ▸ hleft.cons hfull hfeed⟩
    · by_cases hfull : dropTerminator s = []
      · have hstart : StartsBlank s := by
          rw [eq_replicate_of_dropTerminator_eq_nil hmem hfull]
          exact .atEnd _
        exact ⟨_, keyLines_of_startsBlank hstart ▸ IsCut.nil hstart⟩
      · have hlines := keyLines_of_not_mem hmem (isBlankLine_eq_false_iff.mpr hfull)
        exact ⟨[], hlines ▸ IsCut.singleton hfull hmem⟩

/-- A cut of a text is the one of its key lines. -/
theorem IsCut.eq_keyLines {s rest : List Char} {cut : List (List Char)} (h : IsCut s cut rest) :
    cut = keyLines s := by
  induction cut generalizing s with
  | nil =>
    rw [h.concat]
    exact (keyLines_of_startsBlank h.stop).symm
  | cons line cut ih =>
    have hfull : isBlankLine line = false :=
      isBlankLine_eq_false_iff.mpr (h.full line List.mem_cons_self)
    rcases line_cases (h.oneLine line List.mem_cons_self) with hnone | ⟨body, hbody, rfl⟩
    · -- A line without line feed is the last one, and the text ends with it.
      rcases h.ended [] line cut rfl with hlast | ⟨rfl, rfl⟩
      · exact absurd (List.mem_of_getLast? hlast) hnone
      · have htext : s = line := by simpa using h.concat
        rw [htext, keyLines_of_not_mem hnone hfull]
    · have htext : s = body ++ '\n' :: (cut.flatten ++ rest) := by simpa using h.concat
      rw [htext, keyLines_append_newline hbody hfull, ← ih h.tail]

/-! ## Keys on a line each -/

/-- Keys with the ends of their lines, and a last key without one if there is one. -/
def joinLines (keys : List (List Char × LineEnd)) (last : Option (List Char)) : List Char :=
  (keys.flatMap fun (key, lineEnd) => key ++ lineEnd.chars) ++ last.getD []

/-- Keys that are joined are laid out on lines. -/
theorem laidOut_joinLines (keys : List (List Char × LineEnd)) (last : Option (List Char)) :
    LaidOut (keys.map Prod.fst ++ last.toList) (joinLines keys last) := by
  induction keys with
  | nil =>
    cases last with
    | none => exact .atEnd 0
    | some key => exact .unterminated key
  | cons line keys ih =>
    obtain ⟨key, lineEnd⟩ := line
    have hjoin : joinLines ((key, lineEnd) :: keys) last =
        key ++ (lineEnd.chars ++ joinLines keys last) := by
      simp [joinLines]
    rw [hjoin]
    exact .line key lineEnd ih

/-- A key that is not empty, stands on one line and does not end in a carriage return is found again
when the terminators are cut off. -/
theorem isKey_of_getLast?_ne {key : List Char} (hne : key ≠ []) (hfeed : '\n' ∉ key)
    (hreturn : key.getLast? ≠ some '\r') : IsKey isTerminator key := by
  refine ⟨hne, hfeed, ?_⟩
  intro c hc
  have hcr : c ≠ '\r' := fun heq => hreturn (heq ▸ hc)
  have hlf : c ≠ '\n' := fun heq => hfeed (heq ▸ List.mem_of_getLast? hc)
  simp [isTerminator, hcr, hlf]

/-- **Cutting a source into key lines loses nothing and invents nothing.** The key lines of a text
are its only cut into full lines and a rest that starts with a blank line; and keys that are written
on a line each, with either end, are left when the terminators of the key lines are cut off. -/
theorem exists_isCut_iff_eq_keyLines (s : List Char) :
    (∀ cut, (∃ rest, IsCut s cut rest) ↔ cut = keyLines s) ∧
    ∀ (keys : List (List Char × LineEnd)) (last : Option (List Char)),
      (∀ key ∈ keys.map Prod.fst ++ last.toList,
        key ≠ [] ∧ '\n' ∉ key ∧ key.getLast? ≠ some '\r') →
      (keyLines (joinLines keys last)).map dropTerminator = keys.map Prod.fst ++ last.toList := by
  constructor
  · intro cut
    constructor
    · rintro ⟨rest, h⟩
      exact h.eq_keyLines
    · rintro rfl
      exact exists_isCut_keyLines s
  · intro keys last hkeys
    apply map_keyLines_of_laidOut (fun _ h => h) (laidOut_joinLines keys last)
    intro key hkey
    obtain ⟨hne, hfeed, hreturn⟩ := hkeys key hkey
    exact isKey_of_getLast?_ne hne hfeed hreturn

/-- A source with a line that ends in two carriage returns, and with text after a blank line. -/
def returnsSource : List Char := "k0\r\r\n k1\n\r\nold\n".toList

/-- Two keys on a line each, with different ends. The second one has a carriage return inside. -/
def endedKeys : List (List Char × LineEnd) :=
  [("k0 ".toList, .lineFeed), ("k\r1".toList, .returnLineFeed)]

/-- The source is cut at its blank line, and joined keys are read back with a last one that lacks
the end of its line. -/
theorem keyLines_returnsSource :
    (∃ rest, IsCut returnsSource ["k0\r\r\n".toList, " k1\n".toList] rest) ∧
    (∀ key ∈ endedKeys.map Prod.fst ++ (some "k2".toList).toList,
      key ≠ [] ∧ '\n' ∉ key ∧ key.getLast? ≠ some '\r') ∧
    joinLines endedKeys (some "k2".toList) = "k0 \nk\r1\r\nk2".toList ∧
    (keyLines (joinLines endedKeys (some "k2".toList))).map dropTerminator =
      ["k0 ".toList, "k\r1".toList, "k2".toList] := by
  have hkeys : ∀ key ∈ endedKeys.map Prod.fst ++ (some "k2".toList).toList,
      key ≠ [] ∧ '\n' ∉ key ∧ key.getLast? ≠ some '\r' := by decide +kernel
  obtain ⟨hcut, hjoined⟩ := exists_isCut_iff_eq_keyLines returnsSource
  exact ⟨(hcut _).mpr (by decide +kernel), hkeys, by decide +kernel, hjoined _ _ hkeys⟩

end ClusterConfig.Text
