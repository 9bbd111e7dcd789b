/-
# Sources of keys

A source of keys is read up to its first blank line. Here its lines are what stands between the line
feeds, and a line is blank when it holds nothing but carriage returns.

Main statements: the key lines of a text are these lines, each without its line feed
(`map_dropLineFeed_keyLines`). What stands after a blank line counts for nothing
(`keyLines_eq_of_sameToBlankLine`), and in a text without a blank line the lines that are added at
its end come after all others (`keyLines_prefix_of_continues`).
-/
import Mathlib.Data.List.TakeWhile
import ClusterConfig.Proofs.Text.LineEndings

namespace ClusterConfig.Text

/-! ## Lines between line feeds -/

/-- The lines of a source of keys without their line feeds: those before the first line that holds
nothing but carriage returns. -/
def sourceLines (s : List Char) : List (List Char) :=
  (s.splitOn '\n').takeWhile fun line => !line.all (· = '\r')

/-- The lines between line feeds are the lines without their line feeds. After the last line feed
there is one more of them, which is empty where the text ends. -/
theorem exists_splitOn_eq_append (s : List Char) :
    ∃ rest, s.splitOn '\n' = (lines s).map dropLineFeed ++ rest ∧ ∀ line ∈ rest, line = [] := by
  induction s with
  | nil => exact ⟨[[]], rfl, by simp⟩
  | cons c s ih =>
    obtain ⟨rest, hs, hrest⟩ := ih
    rw [List.splitOn_cons_eq_if_modifyHead, lines]
    by_cases hc : c = '\n'
    · refine ⟨rest, ?_, hrest⟩
      rw [if_pos (by simp [hc]), if_pos hc, hs, hc]
      rfl
    · rw [if_neg (by simp [hc]), if_neg hc]
      cases hlines : lines s with
      | nil =>
        -- There is no line to put the character in front of, so the text ends here.
        have hnil : s = [] := by rw [← flatten_lines s, hlines, List.flatten_nil]
        exact ⟨[], by simp [hnil, dropLineFeed, hc], by simp⟩
      | cons line more =>
        have hne : line ≠ [] := ne_nil_of_mem_lines (hlines ▸ List.mem_cons_self)
        have hcut : dropLineFeed (c :: line) = c :: dropLineFeed line := by
          obtain ⟨d, line, rfl⟩ := List.exists_cons_of_ne_nil hne
          rw [dropLineFeed, dropLineFeed, List.getLast?_cons_cons]
          split <;> rfl
        refine ⟨rest, ?_, hrest⟩
        rw [hs, hlines, List.map_cons, List.map_cons, List.cons_append, List.modifyHead_cons, hcut,
          List.cons_append]

/-- A line is blank when nothing but carriage returns stands in front of its line feed. -/
theorem isBlankLine_eq_all {line : List Char} (h : '\n' ∉ line.dropLast) :
    isBlankLine line = (dropLineFeed line).all (· = '\r') := by
  rw [isBlankLine, ← dropReturns_dropLineFeed h, Bool.eq_iff_iff, List.isEmpty_iff,
    List.rdropWhile_eq_nil_iff, List.all_eq_true]

/-- Classes that agree on a list take the same beginning of it. -/
theorem takeWhile_congr {α : Type} {p q : α → Bool} {l : List α} (h : ∀ a ∈ l, p a = q a) :
    l.takeWhile p = l.takeWhile q := by
  induction l with
  | nil => rfl
  | cons a l ih =>
    rw [List.takeWhile_cons, List.takeWhile_cons, h a List.mem_cons_self,
      ih fun b hb => h b (List.mem_cons_of_mem a hb)]

/-- **The key lines are the lines of the source**, each with its line feed where it has one. -/
theorem map_dropLineFeed_keyLines (s : List Char) :
    (keyLines s).map dropLineFeed = sourceLines s := by
  obtain ⟨rest, hsplit, hrest⟩ := exists_splitOn_eq_append s
  have hstop : ∀ line ∈ rest.head?, (!line.all (· = '\r')) = false := by
    intro line hline
    rw [hrest line (List.mem_of_head? hline)]
    rfl
  rw [sourceLines, hsplit, takeWhile_append_of_head hstop, List.takeWhile_map, keyLines]
  congr 1
  apply takeWhile_congr
  intro line hline
  rw [isBlankLine_eq_all (not_mem_dropLast_of_mem_lines hline)]
  rfl

/-- A source has as many lines as it has key lines. -/
theorem length_sourceLines (s : List Char) : (sourceLines s).length = (keyLines s).length := by
  rw [← map_dropLineFeed_keyLines, List.length_map]

/-- A line of a source holds no line feed, and something else than carriage returns. -/
theorem of_mem_sourceLines {s line : List Char} (h : line ∈ sourceLines s) :
    '\n' ∉ line ∧ ∃ c ∈ line, c ≠ '\r' := by
  constructor
  · rw [← map_dropLineFeed_keyLines, List.mem_map] at h
    obtain ⟨whole, hwhole, rfl⟩ := h
    exact (dropLineFeed_cases
      (not_mem_dropLast_of_mem_lines (List.takeWhile_subset _ hwhole))).1
  · have hkept := List.mem_takeWhile_imp h
    simpa using hkept

/-! ## Texts after a line -/

/-- A text after which a new line starts: the beginning of a text, or one that ends in a line
feed. -/
def EndsLine (s : List Char) : Prop := s = [] ∨ s.getLast? = some '\n'

instance (s : List Char) : Decidable (EndsLine s) := inferInstanceAs (Decidable (_ ∨ _))

/-- A line that ends does so after its first character, too. -/
theorem EndsLine.tail {c : Char} {s : List Char} (h : EndsLine (c :: s)) : EndsLine s := by
  rcases h with h | h
  · contradiction
  · cases s with
    | nil => exact Or.inl rfl
    | cons d s => exact Or.inr (List.getLast?_cons_cons ▸ h)

/-- Where a new line starts, the lines are those before and those after. -/
theorem lines_append {s : List Char} (h : EndsLine s) (rest : List Char) :
    lines (s ++ rest) = lines s ++ lines rest := by
  induction s with
  | nil => rfl
  | cons c s ih =>
    rw [List.cons_append, lines, lines, ih h.tail]
    by_cases hc : c = '\n'
    · rw [if_pos hc, if_pos hc, List.cons_append]
    · rw [if_neg hc, if_neg hc]
      cases hlines : lines s with
      | nil =>
        -- Then the character ends the text, but it is no line feed.
        have hnil : s = [] := by rw [← flatten_lines s, hlines, List.flatten_nil]
        rcases h with h | h
        · contradiction
        · exact absurd (by simpa [hnil] using h) hc
      | cons line more => rfl

/-- In a text that ends a line every line does. -/
theorem getLast?_of_mem_lines {s line : List Char} (h : EndsLine s) (hline : line ∈ lines s) :
    line.getLast? = some '\n' := by
  fun_induction lines s generalizing line with
  | case1 => contradiction
  | case2 rest ih =>
    rcases List.mem_cons.mp hline with rfl | hline
    · rfl
    · exact ih h.tail hline
  | case3 c rest hc heq ih =>
    -- The line is the whole text, which ends in no line feed.
    have hnil : rest = [] := by rw [← flatten_lines rest, heq, List.flatten_nil]
    rcases h with h | h
    · contradiction
    · exact absurd (by simpa [hnil] using h) hc
  | case4 c rest hc first more heq ih =>
    rw [heq] at ih
    rcases List.mem_cons.mp hline with rfl | hline
    · have hne : first ≠ [] := ne_nil_of_mem_lines (heq ▸ List.mem_cons_self)
      rw [List.getLast?_cons_of_ne_nil hne]
      exact ih h.tail List.mem_cons_self
    · exact ih h.tail (List.mem_cons_of_mem first hline)

/-- Lines that all end are a text that ends a line. -/
theorem endsLine_flatten {l : List (List Char)} (h : ∀ line ∈ l, line.getLast? = some '\n') :
    EndsLine l.flatten := by
  induction l with
  | nil => exact Or.inl rfl
  | cons line l ih =>
    right
    rw [List.flatten_cons, List.getLast?_append, h line List.mem_cons_self]
    rcases ih fun next hnext => h next (List.mem_cons_of_mem line hnext) with hnil | hlast
    · rw [hnil]
      rfl
    · rw [hlast]
      rfl

/-! ## Blank lines -/

/-- A text with a blank line between a beginning and a rest. -/
def withBlankLine (before : List Char) (returns : Nat) (rest : List Char) : List Char :=
  before ++ (List.replicate returns '\r' ++ '\n' :: rest)

/-- A blank line stands in a text. -/
def HoldsBlankLine (s : List Char) : Prop :=
  ∃ before returns rest, EndsLine before ∧ s = withBlankLine before returns rest

/-- Two texts that are the same, or the same up to the end of a blank line. -/
inductive SameToBlankLine : List Char → List Char → Prop
  | refl (s : List Char) : SameToBlankLine s s
  | blank {before : List Char} (h : EndsLine before) (returns : Nat) (rest rest' : List Char) :
    SameToBlankLine (withBlankLine before returns rest) (withBlankLine before returns rest')

/-- A text, and the same text or one that goes on after it on a new line, where no line before is
blank. -/
inductive Continues : List Char → List Char → Prop
  | refl (s : List Char) : Continues s s
  | more {s : List Char} (h : EndsLine s) (hblank : ¬ HoldsBlankLine s) (more : List Char) :
    Continues s (s ++ more)

/-- The keys end at a blank line. -/
theorem keyLines_withBlankLine {before : List Char} (h : EndsLine before) (returns : Nat)
    (rest : List Char) : keyLines (withBlankLine before returns rest) = keyLines before := by
  have hreturns : '\n' ∉ List.replicate returns '\r' := by simp
  rw [withBlankLine, keyLines, lines_append h, lines_append_newline hreturns,
    takeWhile_append_of_head (by simp [isBlankLine_replicate_append])]
  rfl

/-- **What stands after a blank line counts for nothing.** -/
theorem keyLines_eq_of_sameToBlankLine {s t : List Char} (h : SameToBlankLine s t) :
    keyLines s = keyLines t := by
  cases h with
  | refl => rfl
  | blank h returns rest rest' => rw [keyLines_withBlankLine h, keyLines_withBlankLine h]

/-- A line that is blank is a blank line in a text that ends a line. -/
theorem holdsBlankLine_of_mem_lines {s line : List Char} (h : EndsLine s) (hline : line ∈ lines s)
    (hblank : isBlankLine line = true) : HoldsBlankLine s := by
  obtain ⟨before, after, hlines⟩ := List.append_of_mem hline
  have hbody := not_mem_dropLast_of_mem_lines hline
  have hreturns : dropLineFeed line = List.replicate (dropLineFeed line).length '\r' := by
    rw [isBlankLine_eq_all hbody, List.all_eq_true] at hblank
    exact List.eq_replicate_of_mem fun c hc => by simpa using hblank c hc
  have hfeed : line = dropLineFeed line ++ ['\n'] := by
    obtain ⟨hnone, heq | heq⟩ := dropLineFeed_cases hbody
    · rw [← heq] at hnone
      exact absurd (List.mem_of_getLast? (getLast?_of_mem_lines h hline)) hnone
    · exact heq
  refine ⟨before.flatten, (dropLineFeed line).length, after.flatten, endsLine_flatten ?_, ?_⟩
  · intro other hother
    exact getLast?_of_mem_lines h (hlines ▸ List.mem_append_left _ hother)
  · rw [withBlankLine, ← hreturns, ← List.singleton_append, ← List.append_assoc _ ['\n'], ← hfeed,
      ← List.flatten_cons, ← List.flatten_append, ← hlines, flatten_lines]

/-- A text that ends a line holds a blank line when one of its lines is blank. -/
theorem holdsBlankLine_iff {s : List Char} (h : EndsLine s) :
    HoldsBlankLine s ↔ ∃ line ∈ lines s, isBlankLine line = true := by
  constructor
  · rintro ⟨before, returns, rest, hbefore, rfl⟩
    refine ⟨_, ?_, isBlankLine_replicate_append returns⟩
    rw [withBlankLine, lines_append hbefore, lines_append_newline (by simp)]
    exact List.mem_append_right _ List.mem_cons_self
  · rintro ⟨line, hline, hblank⟩
    exact holdsBlankLine_of_mem_lines h hline hblank

/-- **The lines that a text goes on with come after all others.** -/
theorem keyLines_prefix_of_continues {s t : List Char} (h : Continues s t) :
    keyLines s <+: keyLines t := by
  cases h with
  | refl => exact List.prefix_refl _
  | more h hblank more =>
    have hnone : ∀ line ∈ lines s, (!isBlankLine line) = true := by
      intro line hline
      rw [Bool.not_eq_true']
      exact eq_false_of_ne_true fun htrue => hblank (holdsBlankLine_of_mem_lines h hline htrue)
    have hbefore : keyLines s = lines s := List.takeWhile_eq_self_iff.mpr hnone
    have hall : keyLines (s ++ more) = lines s ++ keyLines more := by
      rw [keyLines, lines_append h, List.takeWhile_append_of_pos hnone]
      rfl
    rw [hbefore, hall]
    exact List.prefix_append _ _

end ClusterConfig.Text
