/-
# Lines and line terminators

Texts are cut into lines after each line feed, and a line keeps its terminator. A source of keys
is read up to its first blank line.

Main statements: the lines of a text concatenate to the text (`flatten_lines`), no line is empty,
and a line feed stands only at the end of a line.
-/
import ClusterConfig.Text.Blank

namespace ClusterConfig.Text

/-! ## Cutting a text into lines -/

/-- The lines of a text, each with its line feed; the last one may lack it. -/
def lines : List Char → List (List Char)
  | [] => []
  | c :: rest =>
    if c = '\n' then [c] :: lines rest
    else
      match lines rest with
      | [] => [[c]]
      | line :: more => (c :: line) :: more

/-- The lines of a text concatenate to the text. -/
@[simp] theorem flatten_lines (s : List Char) : (lines s).flatten = s := by
  induction s with
  | nil => rfl
  | cons c rest ih =>
    unfold lines
    split
    · simp [ih]
    · split <;> simp_all

/-- No line is empty. -/
theorem ne_nil_of_mem_lines {s line : List Char} (h : line ∈ lines s) : line ≠ [] := by
  fun_induction lines s <;> grind

/-- A line feed stands only at the end of a line. -/
theorem not_mem_dropLast_of_mem_lines {s line : List Char} (h : line ∈ lines s) :
    '\n' ∉ line.dropLast := by
  fun_induction lines s generalizing line with
  | case1 => simp at h
  | case2 rest ih =>
    rcases List.mem_cons.mp h with rfl | h
    · simp
    · exact ih h
  | case3 c rest hc heq ih =>
    obtain rfl := List.mem_singleton.mp h
    simp
  | case4 c rest hc first more heq ih =>
    rcases List.mem_cons.mp h with rfl | h
    · have hfirst : first ∈ lines rest := by simp [heq]
      rw [List.dropLast_cons_of_ne_nil (ne_nil_of_mem_lines hfirst)]
      simpa [Ne.symm hc] using ih hfirst
    · exact ih (by simp [heq, h])

/-! ## Terminators -/

/-- Carriage returns and line feeds end a line. -/
def isTerminator (c : Char) : Bool := c = '\r' || c = '\n'

/-- Terminators are blank. -/
theorem isBlank_of_isTerminator {c : Char} (h : isTerminator c = true) : isBlank c = true := by
  rw [isTerminator, Bool.or_eq_true, decide_eq_true_eq, decide_eq_true_eq] at h
  rcases h with rfl | rfl <;> decide

/-- Cuts all carriage returns and line feeds off the end of a line. -/
def dropTerminator (line : List Char) : List Char := dropEndWhile isTerminator line

/-- Cuts one line feed off the end. -/
def dropLineFeed (s : List Char) : List Char :=
  if s.getLast? = some '\n' then s.dropLast else s

/-- Cuts one line end, a line feed or a carriage return and a line feed, off the end. -/
def dropLineEnd (s : List Char) : List Char :=
  if s.getLast? = some '\n' then
    if s.dropLast.getLast? = some '\r' then s.dropLast.dropLast else s.dropLast
  else s

/-- A line is blank when it holds nothing but its terminator. -/
def isBlankLine (line : List Char) : Bool := (dropTerminator line).isEmpty

/-- The lines of a source of keys: those before the first blank line. -/
def keyLines (s : List Char) : List (List Char) := (lines s).takeWhile fun l => !isBlankLine l

/-- No key line is blank. -/
theorem isBlankLine_of_mem_keyLines {s line : List Char} (h : line ∈ keyLines s) :
    isBlankLine line = false := by
  simpa using List.all_eq_true.mp List.all_takeWhile line h

end ClusterConfig.Text
