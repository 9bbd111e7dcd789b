/-
# Keys laid out on lines

A list of keys can be laid out on the lines of a text in many ways: a line ends in a line feed, or
in a carriage return and a line feed, the last line of a file may lack its end, and whatever comes
after a blank line is not read.

Main statement: however keys are laid out, the key lines of the text hold them in their order, once
a run of any class that contains the terminators is cut off their ends (`map_keyLines_of_laidOut`).
Miner keys are read with the class of the terminators, signer keys with the class of the blanks. A
secret fills its file but for one line end (`dropLineEnd_of_holdsSecret`).
-/
import ClusterConfig.Proofs.Text.Trimming

namespace ClusterConfig.Text

/-! ## Layouts -/

/-- The two ends of a line. -/
inductive LineEnd where
  | lineFeed
  | returnLineFeed
  deriving DecidableEq, Repr

/-- The characters that end a line. -/
def LineEnd.chars : LineEnd → List Char
  | lineFeed => ['\n']
  | returnLineFeed => ['\r', '\n']

/-- A line ends in terminators. -/
theorem LineEnd.isTerminator_of_mem (lineEnd : LineEnd) :
    ∀ c ∈ lineEnd.chars, isTerminator c = true := by
  apply List.all_eq_true.mp
  cases lineEnd <;> decide

/-- The texts that hold a list of keys, one on each line. -/
inductive LaidOut : List (List Char) → List Char → Prop
  /-- The file ends after the last line, or after a blank line that lacks its line feed. -/
  | atEnd (returns : Nat) : LaidOut [] (List.replicate returns '\r')
  /-- A blank line ends the keys, whatever comes after it. -/
  | atBlank (returns : Nat) (rest : List Char) :
    LaidOut [] (List.replicate returns '\r' ++ '\n' :: rest)
  /-- The last line of a file may lack its end. -/
  | unterminated (key : List Char) : LaidOut [key] key
  | line (key : List Char) (lineEnd : LineEnd) {keys : List (List Char)} {text : List Char}
    (more : LaidOut keys text) : LaidOut (key :: keys) (key ++ (lineEnd.chars ++ text))

/-- A key that is found again on its line when a class of characters is cut off its end: it is not
empty, it stands on one line, and it does not end in the class. -/
structure IsKey (p : Char → Bool) (key : List Char) : Prop where
  ne_nil : key ≠ []
  noLineFeed : '\n' ∉ key
  lastOutside : ∀ c ∈ key.getLast?, p c = false

instance (p : Char → Bool) (key : List Char) : Decidable (IsKey p key) :=
  decidable_of_iff (key ≠ [] ∧ '\n' ∉ key ∧ key.getLast?.all (!p ·) = true)
    ⟨fun ⟨hne, hfeed, hlast⟩ => ⟨hne, hfeed, by simpa [Option.all_eq_true] using hlast⟩,
      fun h => ⟨h.ne_nil, h.noLineFeed, by simpa [Option.all_eq_true] using h.lastOutside⟩⟩

/-! ## Cutting lines off a text -/

/-- The first line of a text ends at the first line feed. -/
theorem lines_append_newline {s : List Char} (h : '\n' ∉ s) (rest : List Char) :
    lines (s ++ '\n' :: rest) = (s ++ ['\n']) :: lines rest := by
  induction s with
  | nil =>
    rw [List.nil_append, lines, if_pos rfl]
    rfl
  | cons c s ih =>
    rw [List.mem_cons, not_or] at h
    rw [List.cons_append, lines, if_neg (Ne.symm h.1), ih h.2]
    rfl

/-- The lines of texts that were written on a line each are these texts. -/
theorem lines_flatMap_lineFeed {α : Type} {text : α → List Char} {l : List α}
    (h : ∀ a ∈ l, '\n' ∉ text a) :
    lines (l.flatMap fun a => text a ++ ['\n']) = l.map fun a => text a ++ ['\n'] := by
  induction l with
  | nil => rfl
  | cons a l ih =>
    have hrest := ih fun b hb => h b (List.mem_cons_of_mem a hb)
    rw [List.flatMap_cons, List.append_assoc, List.singleton_append,
      lines_append_newline (h a List.mem_cons_self), hrest, List.map_cons]

/-- A text without line feed is one line. -/
theorem lines_of_not_mem {s : List Char} (h : '\n' ∉ s) (hne : s ≠ []) : lines s = [s] := by
  induction s with
  | nil => exact absurd rfl hne
  | cons c s ih =>
    rw [List.mem_cons, not_or] at h
    rw [lines, if_neg (Ne.symm h.1)]
    cases s with
    | nil => rfl
    | cons d s => rw [ih h.2 (List.cons_ne_nil d s)]

/-- A line is blank when it consists of terminators. -/
theorem isBlankLine_of_forall {line : List Char} (h : ∀ c ∈ line, isTerminator c = true) :
    isBlankLine line = true := by
  rw [isBlankLine, dropTerminator_eq, List.rdropWhile_eq_nil_iff.mpr h]
  rfl

/-- A line is not blank when something is left of it without its terminator. -/
theorem isBlankLine_eq_false_iff {line : List Char} :
    isBlankLine line = false ↔ dropTerminator line ≠ [] :=
  List.isEmpty_eq_false_iff

/-- A line that holds a key is not blank. -/
theorem isBlankLine_append {p : Char → Bool} (hp : ∀ c, isTerminator c = true → p c = true)
    {key ending : List Char} (hkey : IsKey p key) (hending : ∀ c ∈ ending, isTerminator c = true) :
    isBlankLine (key ++ ending) = false := by
  have hlast : ∀ c ∈ key.getLast?, isTerminator c = false := by
    intro c hc
    have hout := hkey.lastOutside c hc
    cases hterminator : isTerminator c with
    | false => rfl
    | true => rw [hp c hterminator] at hout; contradiction
  rw [isBlankLine_eq_false_iff, dropTerminator_eq, rdropWhile_append_of_pos key hending,
    rdropWhile_eq_self_iff_getLast?.mpr hlast]
  exact hkey.ne_nil

/-! ## Key lines -/

/-- Carriage returns and a line feed are a blank line. -/
theorem isBlankLine_replicate_append (returns : Nat) :
    isBlankLine (List.replicate returns '\r' ++ ['\n']) = true := by
  apply isBlankLine_of_forall
  intro c hc
  rcases List.mem_append.mp hc with hc | hc
  · obtain rfl := (List.mem_replicate.mp hc).2
    rfl
  · obtain rfl := List.mem_singleton.mp hc
    rfl

/-- No key line starts at a blank line. -/
theorem keyLines_blank (returns : Nat) (rest : List Char) :
    keyLines (List.replicate returns '\r' ++ '\n' :: rest) = [] := by
  have hreturns : '\n' ∉ List.replicate returns '\r' := by simp
  rw [keyLines, lines_append_newline hreturns,
    List.takeWhile_cons_of_neg (by simp [isBlankLine_replicate_append])]

/-- No key line starts at a blank line that lacks its line feed. -/
theorem keyLines_replicate (returns : Nat) : keyLines (List.replicate returns '\r') = [] := by
  cases returns with
  | zero => rfl
  | succ returns =>
    have hblank : isBlankLine (List.replicate (returns + 1) '\r') = true := by
      apply isBlankLine_of_forall
      intro c hc
      obtain rfl := (List.mem_replicate.mp hc).2
      rfl
    rw [keyLines, lines_of_not_mem (by simp) (by simp),
      List.takeWhile_cons_of_neg (by simp [hblank])]

/-- A line that is not blank is the first key line. -/
theorem keyLines_append_newline {line : List Char} (h : '\n' ∉ line)
    (hfull : isBlankLine (line ++ ['\n']) = false) (rest : List Char) :
    keyLines (line ++ '\n' :: rest) = (line ++ ['\n']) :: keyLines rest := by
  rw [keyLines, lines_append_newline h, List.takeWhile_cons_of_pos (by simp [hfull])]
  rfl

/-- A text without line feed that is not blank is its only key line. -/
theorem keyLines_of_not_mem {line : List Char} (h : '\n' ∉ line)
    (hfull : isBlankLine line = false) : keyLines line = [line] := by
  have hne : line ≠ [] := by
    rintro rfl
    contradiction
  rw [keyLines, lines_of_not_mem h hne, List.takeWhile_cons_of_pos (by simp [hfull])]
  rfl

/-- A line with a key is the first key line. -/
theorem keyLines_append {p : Char → Bool} (hp : ∀ c, isTerminator c = true → p c = true)
    {key : List Char} (hkey : IsKey p key) (lineEnd : LineEnd) (text : List Char) :
    keyLines (key ++ (lineEnd.chars ++ text)) = (key ++ lineEnd.chars) :: keyLines text := by
  have hfull := isBlankLine_append hp hkey lineEnd.isTerminator_of_mem
  cases lineEnd with
  | lineFeed => exact keyLines_append_newline hkey.noLineFeed hfull text
  | returnLineFeed =>
    have hreturn : '\n' ∉ key ++ ['\r'] := by simp [hkey.noLineFeed]
    have hcut := keyLines_append_newline hreturn (by simpa [LineEnd.chars] using hfull) text
    simpa [LineEnd.chars] using hcut

/-- **Keys laid out on lines are read back.** Cutting a class that contains the terminators off the
ends of the key lines gives the keys in their order. -/
theorem map_keyLines_of_laidOut {p : Char → Bool} (hp : ∀ c, isTerminator c = true → p c = true)
    {keys : List (List Char)} {text : List Char} (h : LaidOut keys text)
    (hkeys : ∀ key ∈ keys, IsKey p key) : (keyLines text).map (List.rdropWhile p) = keys := by
  -- The induction follows the layout: each line adds one key in front.
  induction h with
  | atEnd returns => rw [keyLines_replicate, List.map_nil]
  | atBlank returns rest => rw [keyLines_blank, List.map_nil]
  | unterminated key =>
    have hkey : IsKey p key := hkeys key List.mem_cons_self
    have hblank : isBlankLine key = false := by
      rw [← List.append_nil key]
      exact isBlankLine_append hp hkey (by simp)
    rw [keyLines_of_not_mem hkey.noLineFeed hblank, List.map_singleton,
      rdropWhile_eq_self_iff_getLast?.mpr hkey.lastOutside]
  | line key lineEnd more ih =>
    have hkey : IsKey p key := hkeys key List.mem_cons_self
    have hending : ∀ c ∈ lineEnd.chars, p c = true := by
      intro c hc
      exact hp c (lineEnd.isTerminator_of_mem c hc)
    rw [keyLines_append hp hkey, List.map_cons, rdropWhile_append_of_pos key hending,
      rdropWhile_eq_self_iff_getLast?.mpr hkey.lastOutside,
      ih fun next hmem => hkeys next (List.mem_cons_of_mem key hmem)]

/-! ## Secrets -/

/-- The texts of a file that holds nothing but a secret: the secret with or without the end of its
line, as far as the end can be told from the secret. -/
inductive HoldsSecret (secret : List Char) : List Char → Prop
  | returnLineFeed : HoldsSecret secret (secret ++ ['\r', '\n'])
  | lineFeed (h : secret.getLast? ≠ some '\r') : HoldsSecret secret (secret ++ ['\n'])
  | unterminated (h : secret.getLast? ≠ some '\n') : HoldsSecret secret secret

/-- **A secret is read back.** -/
theorem dropLineEnd_of_holdsSecret {secret text : List Char} (h : HoldsSecret secret text) :
    dropLineEnd text = secret := by
  cases h with
  | returnLineFeed =>
    rw [show secret ++ ['\r', '\n'] = (secret ++ ['\r']) ++ ['\n'] by simp]
    simp [dropLineEnd]
  | lineFeed h => simp [dropLineEnd, h]
  | unterminated h => rw [dropLineEnd, if_neg h]

end ClusterConfig.Text
