/-
# Cutting runs off the end of a text

Blanks, terminators and carriage returns are cut off the end of a text in the same way. The program
does it with a function of its own, which is `List.rdropWhile` of the library (`dropEndWhile_eq`),
so what is known of that function is known here.

Main statements: a run of the class at the end counts for nothing (`rdropWhile_append_of_pos`), and
what is left is all that stands before the run (`cutsOff_rdropWhile`).
-/
import Mathlib.Data.List.DropRight
import ClusterConfig.Text.Lines
import ClusterConfig.Text.Numeral

namespace ClusterConfig.Text

/-! ## The library's function -/

/-- Characters are cut off the end as the library does it. -/
theorem dropEndWhile_eq (p : Char → Bool) (s : List Char) : dropEndWhile p s = s.rdropWhile p := rfl

/-- Blanks are cut off the end as the library does it. -/
theorem trimEnd_eq (s : List Char) : trimEnd s = s.rdropWhile isBlank := dropEndWhile_eq isBlank s

/-- Terminators are cut off the end as the library does it. -/
theorem dropTerminator_eq (line : List Char) :
    dropTerminator line = line.rdropWhile isTerminator :=
  dropEndWhile_eq isTerminator line

/-! ## Runs at the end -/

section

variable {α : Type} {p q : α → Bool} {s t : List α}

/-- A run of the class at the end is cut off. -/
theorem rdropWhile_append_of_pos (s : List α) (h : ∀ a ∈ t, p a = true) :
    (s ++ t).rdropWhile p = s.rdropWhile p := by
  induction t using List.reverseRecOn with
  | nil => rw [List.append_nil]
  | append_singleton t a ih =>
    rw [← List.append_assoc, List.rdropWhile_concat_pos p (s ++ t) a (h a (by simp))]
    exact ih fun b hb => h b (List.mem_append_left [a] hb)

/-- Nothing is cut off exactly where the text does not end in the class. -/
theorem rdropWhile_eq_self_iff_getLast? :
    s.rdropWhile p = s ↔ ∀ a ∈ s.getLast?, p a = false := by
  rw [List.rdropWhile_eq_self_iff]
  constructor
  · intro h a ha
    obtain ⟨hne, rfl⟩ := List.mem_getLast?_eq_getLast ha
    exact eq_false_of_ne_true (h hne)
  · intro h hne
    rw [h _ (List.getLast_mem_getLast? hne)]
    exact Bool.false_ne_true

/-- What is cut off with a smaller class does not matter to a larger one. -/
theorem rdropWhile_rdropWhile (h : ∀ a, p a = true → q a = true) (s : List α) :
    (s.rdropWhile p).rdropWhile q = s.rdropWhile q := by
  have hrun : ∀ a ∈ s.rtakeWhile p, q a = true := fun a ha => h a (List.mem_rtakeWhile_imp ha)
  calc (s.rdropWhile p).rdropWhile q
      = (s.rdropWhile p ++ s.rtakeWhile p).rdropWhile q := (rdropWhile_append_of_pos _ hrun).symm
    _ = s.rdropWhile q := by rw [List.rdropWhile_append_rtakeWhile]

end

/-! ## What is left -/

/-- A key is left of a line when the run of a class of characters at the end is cut off. -/
structure CutsOff (p : Char → Bool) (line key : List Char) : Prop where
  run : ∃ ending, line = key ++ ending ∧ ∀ c ∈ ending, p c = true
  lastOutside : ∀ c ∈ key.getLast?, p c = false

/-- What is left is the key. -/
theorem cutsOff_rdropWhile (p : Char → Bool) (line : List Char) :
    CutsOff p line (line.rdropWhile p) where
  run := ⟨line.rtakeWhile p, List.rdropWhile_append_rtakeWhile.symm,
    fun _ => List.mem_rtakeWhile_imp⟩
  lastOutside := rdropWhile_eq_self_iff_getLast?.mp (List.rdropWhile_idempotent p line)

/-- A key holds nothing but what its line holds. -/
theorem CutsOff.mem {p : Char → Bool} {line key : List Char} (h : CutsOff p line key) {c : Char}
    (hc : c ∈ key) : c ∈ line := by
  obtain ⟨ending, hline, -⟩ := h.run
  rw [hline]
  exact List.mem_append_left _ hc

/-- A text without blanks is kept as it is. -/
theorem trim_of_forall {s : List Char} (h : ∀ c ∈ s, isBlank c = false) : trim s = s := by
  have hstart : s.dropWhile isBlank = s := by
    cases s with
    | nil => rfl
    | cons c s => rw [List.dropWhile_cons_of_neg (by simp [h c List.mem_cons_self])]
  rw [trim, hstart, trimEnd_eq, rdropWhile_eq_self_iff_getLast?]
  intro c hc
  exact h c (List.mem_of_getLast? hc)

/-- There are no blanks around a number that is written. -/
theorem trim_decimal (n : Nat) : trim (decimal n) = decimal n :=
  trim_of_forall fun _ hc => isBlank_of_isDigit (isDigit_of_mem_decimal hc)

end ClusterConfig.Text
