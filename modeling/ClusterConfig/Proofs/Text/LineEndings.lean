/-
# Ends of lines

A text can be given other ends of lines: a carriage return in front of every line feed, or one more
line feed at its end. Main statement: neither of them changes the keys on the lines of the text
(`keyTexts_eq_of_restyled`). The terminator is cut off before a line is tested for being blank, so
the keys also end in the same place.
-/
import Mathlib.Logic.Relation
import ClusterConfig.Proofs.Text.KeyLines

namespace ClusterConfig.Text

/-! ## Other ends -/

/-- A text with a carriage return in front of every line feed. -/
def addReturns (s : List Char) : List Char :=
  s.flatMap fun c => if c = '\n' then ['\r', '\n'] else [c]

/-- Texts that are led from one to the other by adding carriage returns or a line feed at the end,
or by taking them away again. -/
def Restyled : List Char → List Char → Prop :=
  Relation.EqvGen fun s t => t = addReturns s ∨ t = s ++ ['\n']

theorem restyled_addReturns (s : List Char) : Restyled s (addReturns s) :=
  .rel _ _ (Or.inl rfl)

theorem restyled_append_lineFeed (s : List Char) : Restyled s (s ++ ['\n']) :=
  .rel _ _ (Or.inr rfl)

/-- The keys on the lines of a text: its key lines without their terminators. -/
def keyTexts (s : List Char) : List (List Char) := (keyLines s).map dropTerminator

/-- The keys are the lines without their terminators, up to the first one of which nothing is
left. -/
theorem keyTexts_eq_takeWhile (s : List Char) :
    keyTexts s = ((lines s).map dropTerminator).takeWhile fun line => !line.isEmpty := by
  rw [List.takeWhile_map]
  rfl

/-- A reading of lines that depends on nothing but the line without its terminator gives the same on
texts with the same keys. -/
theorem map_keyLines_eq_of_keyTexts_eq {β : Type} {f g : List Char → β}
    (hf : ∀ s, ∀ line ∈ lines s, f line = g (dropTerminator line)) {s t : List Char}
    (h : keyTexts s = keyTexts t) : (keyLines s).map f = (keyLines t).map f := by
  have hkeys (s : List Char) : (keyLines s).map f = (keyTexts s).map g := by
    rw [keyTexts, List.map_map]
    apply List.map_congr_left
    intro line hline
    exact hf s line (List.takeWhile_subset _ hline)
  rw [hkeys, hkeys, h]

/-- A line is a text without line feed, or such a text and a line feed. -/
theorem line_cases {line : List Char} (h : '\n' ∉ line.dropLast) :
    '\n' ∉ line ∨ ∃ body, '\n' ∉ body ∧ line = body ++ ['\n'] := by
  by_cases hnil : line = []
  · exact Or.inl (hnil ▸ List.not_mem_nil)
  · have hline := List.dropLast_concat_getLast hnil
    by_cases hlast : line.getLast hnil = '\n'
    · exact Or.inr ⟨line.dropLast, h, by rw [← hlast, hline]⟩
    · left
      rw [← hline, List.mem_append, List.mem_singleton]
      rintro (hmem | hmem)
      · exact h hmem
      · exact hlast hmem.symm

/-- A line without its line feed holds none. -/
theorem dropLineFeed_cases {line : List Char} (h : '\n' ∉ line.dropLast) :
    '\n' ∉ dropLineFeed line ∧ (line = dropLineFeed line ∨ line = dropLineFeed line ++ ['\n']) := by
  rcases line_cases h with hnone | ⟨body, hbody, rfl⟩
  · have hlast : line.getLast? ≠ some '\n' := fun hlast => hnone (List.mem_of_getLast? hlast)
    rw [dropLineFeed, if_neg hlast]
    exact ⟨hnone, Or.inl rfl⟩
  · have hcut : dropLineFeed (body ++ ['\n']) = body := by simp [dropLineFeed]
    rw [hcut]
    exact ⟨hbody, Or.inr rfl⟩

/-- A class that contains the line feed cuts the same off a line with and without it. -/
theorem rdropWhile_dropLineFeed {p : Char → Bool} (hp : p '\n' = true) {line : List Char}
    (h : '\n' ∉ line.dropLast) : (dropLineFeed line).rdropWhile p = line.rdropWhile p := by
  obtain ⟨-, heq | heq⟩ := dropLineFeed_cases h
  · rw [← heq]
  · calc (dropLineFeed line).rdropWhile p
        = (dropLineFeed line ++ ['\n']).rdropWhile p :=
          (List.rdropWhile_concat_pos p _ '\n' hp).symm
      _ = line.rdropWhile p := congrArg _ heq.symm

/-- In a text without line feed the terminators are carriage returns. -/
theorem dropReturns_eq_dropTerminator {s : List Char} (h : '\n' ∉ s) :
    s.rdropWhile (· = '\r') = dropTerminator s := by
  have hcut : CutsOff isTerminator s (dropTerminator s) := cutsOff_rdropWhile isTerminator s
  obtain ⟨ending, hs, hending⟩ := hcut.run
  have hreturns : ∀ c ∈ ending, decide (c = '\r') = true := by
    intro c hc
    have hmem : c ∈ s := by
      rw [hs]
      exact List.mem_append_right _ hc
    have hne : c ≠ '\n' := fun heq => h (heq ▸ hmem)
    simpa [isTerminator, hne] using hending c hc
  have hlast : ∀ c ∈ (dropTerminator s).getLast?, decide (c = '\r') = false := by
    intro c hc
    have hkept : isTerminator c = false := hcut.lastOutside c hc
    rw [isTerminator, Bool.or_eq_false_iff] at hkept
    exact hkept.1
  calc s.rdropWhile (· = '\r')
      = (dropTerminator s ++ ending).rdropWhile (· = '\r') := congrArg _ hs
    _ = (dropTerminator s).rdropWhile (· = '\r') := rdropWhile_append_of_pos _ hreturns
    _ = dropTerminator s := rdropWhile_eq_self_iff_getLast?.mpr hlast

/-- The terminator of a line is its line feed and the carriage returns before it. -/
theorem dropReturns_dropLineFeed {line : List Char} (h : '\n' ∉ line.dropLast) :
    (dropLineFeed line).rdropWhile (· = '\r') = dropTerminator line := by
  rw [dropReturns_eq_dropTerminator (dropLineFeed_cases h).1]
  exact rdropWhile_dropLineFeed (by decide) h

/-- The end of a line is no part of its key. -/
theorem dropTerminator_append_lineEnd (s : List Char) (lineEnd : LineEnd) :
    dropTerminator (s ++ lineEnd.chars) = dropTerminator s :=
  rdropWhile_append_of_pos s lineEnd.isTerminator_of_mem

/-! ## Carriage returns -/

theorem addReturns_append (s t : List Char) : addReturns (s ++ t) = addReturns s ++ addReturns t :=
  List.flatMap_append

/-- A text without line feed is kept as it is. -/
theorem addReturns_of_not_mem {s : List Char} (h : '\n' ∉ s) : addReturns s = s := by
  induction s with
  | nil => rfl
  | cons c s ih =>
    rw [List.mem_cons, not_or] at h
    rw [addReturns, List.flatMap_cons, if_neg (Ne.symm h.1), ← addReturns, ih h.2]
    rfl

/-- Adding carriage returns adds them line by line. -/
theorem lines_addReturns (s : List Char) : lines (addReturns s) = (lines s).map addReturns := by
  induction s with
  | nil => rfl
  | cons c s ih =>
    by_cases hc : c = '\n'
    · subst hc
      have hlines : lines ('\r' :: '\n' :: addReturns s) =
          ['\r', '\n'] :: lines (addReturns s) := by
        rw [lines, if_neg (by decide), lines, if_pos rfl]
      have hadd : addReturns ('\n' :: s) = '\r' :: '\n' :: addReturns s := rfl
      rw [hadd, hlines, ih, lines, if_pos rfl]
      rfl
    · have hadd (u : List Char) : addReturns (c :: u) = c :: addReturns u := by
        rw [addReturns, List.flatMap_cons, if_neg hc]
        rfl
      rw [hadd, lines, if_neg hc, ih, lines, if_neg hc]
      cases lines s with
      | nil => rw [List.map_nil, List.map_singleton, hadd]; rfl
      | cons line more => rw [List.map_cons, List.map_cons, hadd]

/-- Nothing but its terminator changes when carriage returns are added to a line. -/
theorem dropTerminator_addReturns {s line : List Char} (h : line ∈ lines s) :
    dropTerminator (addReturns line) = dropTerminator line := by
  rcases line_cases (not_mem_dropLast_of_mem_lines h) with hnone | ⟨body, hbody, rfl⟩
  · rw [addReturns_of_not_mem hnone]
  · rw [addReturns_append, addReturns_of_not_mem hbody]
    calc dropTerminator (body ++ addReturns ['\n'])
        = dropTerminator body := dropTerminator_append_lineEnd body .returnLineFeed
      _ = dropTerminator (body ++ ['\n']) := (dropTerminator_append_lineEnd body .lineFeed).symm

/-- Adding carriage returns does not change the keys. -/
theorem keyTexts_addReturns (s : List Char) : keyTexts (addReturns s) = keyTexts s := by
  rw [keyTexts_eq_takeWhile, keyTexts_eq_takeWhile, lines_addReturns, List.map_map]
  congr 1
  exact List.map_congr_left fun line hline => dropTerminator_addReturns hline

/-! ## A line feed at the end -/

/-- What a class begins with ends where another list begins outside of it. -/
theorem takeWhile_append_of_head {α : Type} {p : α → Bool} {l rest : List α}
    (h : ∀ a ∈ rest.head?, p a = false) : (l ++ rest).takeWhile p = l.takeWhile p := by
  have hrest : rest.takeWhile p = [] := by
    cases rest with
    | nil => rfl
    | cons a rest => rw [List.takeWhile_cons_of_neg (by simp [h a rfl])]
  rw [List.takeWhile_append, hrest, List.append_nil]
  split
  · next hall => exact ((List.takeWhile_prefix p).eq_of_length hall).symm
  · rfl

/-- A line feed at the end of a text is a line of its own, or it ends the last line. -/
theorem lines_append_lineFeed (s : List Char) :
    lines (s ++ ['\n']) = lines s ++ [['\n']] ∨
      ∃ before last, lines s = before ++ [last] ∧
        lines (s ++ ['\n']) = before ++ [last ++ ['\n']] := by
  induction s with
  | nil => exact Or.inl rfl
  | cons c s ih =>
    by_cases hc : c = '\n'
    · subst hc
      rw [List.cons_append, lines, if_pos rfl, lines, if_pos rfl]
      rcases ih with heq | ⟨before, last, heq, heq'⟩
      · exact Or.inl (by rw [heq, List.cons_append])
      · exact Or.inr ⟨['\n'] :: before, last, by rw [heq, List.cons_append],
          by rw [heq', List.cons_append]⟩
    · rw [List.cons_append, lines, if_neg hc, lines, if_neg hc]
      -- The character is put in front of the first line, which may be the last one, too.
      rcases ih with heq | ⟨before, last, heq, heq'⟩
      · rw [heq]
        cases lines s with
        | nil => exact Or.inr ⟨[], [c], rfl, rfl⟩
        | cons line more => exact Or.inl rfl
      · rw [heq, heq']
        cases before with
        | nil => exact Or.inr ⟨[], c :: last, rfl, rfl⟩
        | cons line more => exact Or.inr ⟨(c :: line) :: more, last, rfl, rfl⟩

/-- A line feed at the end does not change the keys. -/
theorem keyTexts_append_lineFeed (s : List Char) : keyTexts (s ++ ['\n']) = keyTexts s := by
  rw [keyTexts_eq_takeWhile, keyTexts_eq_takeWhile]
  rcases lines_append_lineFeed s with heq | ⟨before, last, heq, heq'⟩
  · have hblank : dropTerminator ['\n'] = [] := by decide
    rw [heq, List.map_append, List.map_singleton, hblank, takeWhile_append_of_head (by simp)]
  · have hlast : dropTerminator (last ++ ['\n']) = dropTerminator last :=
      dropTerminator_append_lineEnd last .lineFeed
    rw [heq, heq', List.map_append, List.map_append, List.map_singleton, List.map_singleton, hlast]

/-- **Other ends of lines leave the keys as they are.** -/
theorem keyTexts_eq_of_restyled {s t : List Char} (h : Restyled s t) : keyTexts s = keyTexts t := by
  induction h with
  | rel s t h =>
    rcases h with rfl | rfl
    · exact (keyTexts_addReturns s).symm
    · exact (keyTexts_append_lineFeed s).symm
  | refl s => rfl
  | symm s t h ih => exact ih.symm
  | trans s t u h hmore ih ihmore => exact ih.trans ihmore

end ClusterConfig.Text
