/-
# Texts that differ on some of their lines

Two lists of lines are the same except on some line numbers when they have the same lines under all
other numbers, and lines that are not blank under those. Main statement: if the lines of two texts
are the same except on some numbers, then so are their key lines (`sameExceptOn_keyLines`). A line
that is changed without becoming blank moves no other line, and it does not end the keys.
-/
import Mathlib.Data.List.TakeWhile
import ClusterConfig.Text.Lines

namespace ClusterConfig.Text

/-- Two lists of lines that are the same except on some line numbers, where both have a line that is
not blank. -/
def SameExceptOn (changed : Nat → Prop) (first second : List (List Char)) : Prop :=
  ∀ number, first[number]? = second[number]? ∨
    changed number ∧ (∃ line ∈ first[number]?, isBlankLine line = false) ∧
      ∃ line ∈ second[number]?, isBlankLine line = false

/-- Only the numbers of lines have to be looked at. -/
instance (changed : Nat → Prop) [DecidablePred changed] (first second : List (List Char)) :
    Decidable (SameExceptOn changed first second) :=
  decidable_of_iff (∀ number < max first.length second.length, first[number]? = second[number]? ∨
      changed number ∧ (∃ line ∈ first[number]?, isBlankLine line = false) ∧
        ∃ line ∈ second[number]?, isBlankLine line = false) <| by
    refine ⟨fun h number => ?_, fun h number _ => h number⟩
    by_cases hnumber : number < max first.length second.length
    · exact h number hnumber
    · left
      rw [List.getElem?_eq_none (by omega), List.getElem?_eq_none (by omega)]

/-- Within the beginning of a list that a class of members makes up, the members are those of the
list. -/
theorem getElem?_takeWhile {α : Type} (p : α → Bool) (l : List α) (index : Nat) :
    (l.takeWhile p)[index]? = if index < (l.takeWhile p).length then l[index]? else none := by
  have htake : l.takeWhile p = l.take (l.takeWhile p).length :=
    List.prefix_iff_eq_take.mp (List.takeWhile_prefix p)
  rw [← List.getElem?_take, ← htake]

namespace SameExceptOn

variable {changed more : Nat → Prop} {first second : List (List Char)}

/-- Lists of lines are the same except on themselves. -/
theorem refl (changed : Nat → Prop) (first : List (List Char)) : SameExceptOn changed first first :=
  fun _ => Or.inl rfl

/-- Lists that are the same except on some numbers are the same except on more numbers. -/
theorem mono (h : SameExceptOn changed first second)
    (hmore : ∀ number, changed number → more number) : SameExceptOn more first second := by
  intro number
  rcases h number with heq | ⟨hchanged, hlines⟩
  · exact Or.inl heq
  · exact Or.inr ⟨hmore number hchanged, hlines⟩

/-- Under a number that is not changed the lines are the same. -/
theorem getElem?_eq (h : SameExceptOn changed first second) {number : Nat}
    (hnumber : ¬ changed number) : first[number]? = second[number]? := by
  rcases h number with heq | ⟨hchanged, -⟩
  · exact heq
  · exact absurd hchanged hnumber

/-- The same lines are blank. -/
theorem map_isBlankLine (h : SameExceptOn changed first second) :
    first.map isBlankLine = second.map isBlankLine := by
  apply List.ext_getElem?
  intro number
  rw [List.getElem?_map, List.getElem?_map]
  rcases h number with heq | ⟨-, ⟨line, hline, hblank⟩, other, hother, hblank'⟩
  · rw [heq]
  · rw [Option.mem_def.mp hline, Option.mem_def.mp hother, Option.map_some, Option.map_some,
      hblank, hblank']

/-- There are as many lines. -/
theorem length_eq (h : SameExceptOn changed first second) : first.length = second.length := by
  simpa using congrArg List.length h.map_isBlankLine

end SameExceptOn

/-- **Key lines are the same except on the changed numbers.** -/
theorem sameExceptOn_keyLines {changed : Nat → Prop} {s t : List Char}
    (h : SameExceptOn changed (lines s) (lines t)) :
    SameExceptOn changed (keyLines s) (keyLines t) := by
  have hkey : keyLines s = (lines s).takeWhile fun line => !isBlankLine line := rfl
  have hkey' : keyLines t = (lines t).takeWhile fun line => !isBlankLine line := rfl
  -- Where the keys end is told by which lines are blank.
  have hcut (l : List (List Char)) : (l.takeWhile fun line => !isBlankLine line).length =
      ((l.map isBlankLine).takeWhile (!·)).length := by
    rw [List.takeWhile_map, List.length_map]
    rfl
  have hlength : ((lines s).takeWhile fun line => !isBlankLine line).length =
      ((lines t).takeWhile fun line => !isBlankLine line).length := by
    rw [hcut, hcut, h.map_isBlankLine]
  intro number
  rw [hkey, hkey', getElem?_takeWhile, getElem?_takeWhile, ← hlength]
  split
  · exact h number
  · exact Or.inl rfl

end ClusterConfig.Text
