/-
# Which command lines are accepted

A command line is spelled part by part: positional arguments, options with their values and the
flag for a detailed log, in any order, and after `--` further positional arguments. What it asks
for is told from its parts, whatever their order (`Line.Asks`).

Main statement: a command line is accepted exactly when it is spelled by parts that ask for
something, and it is read as what they ask for (`read_eq_ok_iff`).

The reader goes through the words from the left, so the words are first put together to parts
(`exists_line_of_collect`, `collect_words`); what has been collected is then told by induction on
the parts, the last one apart (`foldlM_add_eq_ok_iff`).
-/
import Mathlib.Data.List.Induction
import ClusterConfig.CommandLine.Invocation
import ClusterConfig.Proofs.Text.Numeral

namespace ClusterConfig.CommandLine

open Text

/-! ## Parts -/

/-- What is given on a command line: one positional argument, one option with its value, joined by
an equals sign or not, or the flag for a detailed log. -/
inductive Part where
  | positional (given : String)
  | option (setting : Setting) (value : String) (joined : Bool)
  | verbose
  deriving DecidableEq, Repr

namespace Part

/-- The words that a part is spelled with. -/
def words : Part → List String
  | positional given => [given]
  | option setting value true => ["--" ++ setting.name ++ "=" ++ value]
  | option setting value false => ["--" ++ setting.name, value]
  | verbose => ["--verbose"]

/-- The positional argument that a part is. -/
def positional? : Part → Option String
  | positional given => some given
  | _ => none

/-- The value that a part gives to an option. -/
def value? (setting : Setting) : Part → Option String
  | option given value _ => if given = setting then some value else none
  | _ => none

end Part

/-- A word that does not look like an option. -/
def IsPlainWord (word : String) : Prop := word.toList.head? = some '-' → word = "-"

instance : DecidablePred IsPlainWord := fun word =>
  inferInstanceAs (Decidable (word.toList.head? = some '-' → word = "-"))

/-- A part that can be told from its words: what stands alone does not look like an option. -/
def Part.IsSpelled : Part → Prop
  | .positional given => IsPlainWord given
  | .option _ value joined => joined = false → IsPlainWord value
  | .verbose => True

instance : DecidablePred Part.IsSpelled
  | .positional given => inferInstanceAs (Decidable (IsPlainWord given))
  | .option _ value joined => inferInstanceAs (Decidable (joined = false → IsPlainWord value))
  | .verbose => inferInstanceAs (Decidable True)

/-- The positional arguments among parts. -/
def positionalsOf (parts : List Part) : List String := parts.filterMap Part.positional?

/-- The values given to an option. -/
def valuesOf (setting : Setting) (parts : List Part) : List String :=
  parts.filterMap (Part.value? setting)

/-! ## Lines -/

/-- A command line: its parts, and the positional arguments after `--` if there is one. -/
structure Line where
  parts : List Part
  rest : Option (List String) := none
  deriving DecidableEq, Repr

namespace Line

/-- The words of a line. -/
def words (line : Line) : List String :=
  line.parts.flatMap Part.words ++ (line.rest.map ("--" :: ·)).getD []

/-- All that is given on a line. -/
def given (line : Line) : List Part := line.parts ++ (line.rest.getD []).map Part.positional

/-- A line whose parts can be told from its words. What follows `--` is positional in any case. -/
def IsSpelled (line : Line) : Prop := ∀ part ∈ line.parts, part.IsSpelled

instance : DecidablePred Line.IsSpelled := fun line =>
  inferInstanceAs (Decidable (∀ part ∈ line.parts, part.IsSpelled))

/-- A line with one more part in front. -/
def prepend (part : Part) (line : Line) : Line := { line with parts := part :: line.parts }

@[simp] theorem words_prepend (part : Part) (line : Line) :
    (line.prepend part).words = part.words ++ line.words := by
  simp [words, prepend]

@[simp] theorem given_prepend (part : Part) (line : Line) :
    (line.prepend part).given = part :: line.given := rfl

@[simp] theorem isSpelled_prepend {part : Part} {line : Line} :
    (line.prepend part).IsSpelled ↔ part.IsSpelled ∧ line.IsSpelled :=
  List.forall_mem_cons

end Line

/-! ## What is asked for -/

/-- An option is chosen by the only value that is given to it, and not chosen without one. -/
def Chosen {α : Type} (Means : String → α → Prop) (values : List String) (chosen : Option α) :
    Prop :=
  values = [] ∧ chosen = none ∨ ∃ value a, values = [value] ∧ Means value a ∧ chosen = some a

/-- The names of the layouts. -/
def NamesLayout (value : String) (layout : KeyLayout) : Prop :=
  value = "authority" ∧ layout = .authority ∨ value = "keypair" ∧ layout = .keypair

/-- The numerals of 64 bits. There are no blanks around them. -/
def NamesNumber (value : String) (n : Nat) : Prop := DenotesNat value.toList n ∧ n ≤ maxNat64

/-- What is chosen for an option, or what is standard when nothing is. -/
def ChosenOr {α : Type} (Means : String → α → Prop) (values : List String) (standard a : α) :
    Prop :=
  ∃ chosen, Chosen Means values chosen ∧ a = chosen.getD standard

/-- The job of arguments when nothing is chosen about it. -/
def standardJob (arguments : Arguments) : Job := { arguments }

/-- The command line has standards of its own, and they are those of a document. -/
theorem options_standardJob (arguments : Arguments) :
    (standardJob arguments).options =
      { epochLength := standardEpochLength, startTime := standardStartTime } := rfl

/-- The positional arguments in the order in which they are given. -/
def sixArguments (arguments : Arguments) : List String :=
  [arguments.basePath.text, arguments.nodeIndex, arguments.clusterSize, arguments.addresses,
    arguments.firstTiming, arguments.secondTiming]

/-- A line asks for a job: for the one of its positional arguments, with what is chosen on it and
otherwise with what is standard. The size of the network buffer is left out unless it is chosen. -/
structure Line.Asks (line : Line) (invocation : Invocation) : Prop where
  spelled : line.IsSpelled
  positionals : positionalsOf line.given = sixArguments invocation.job.arguments
  basePath_ne : invocation.job.arguments.basePath.text ≠ ""
  layout : ChosenOr NamesLayout (valuesOf .layout line.given)
    (standardJob invocation.job.arguments).layout invocation.job.layout
  epochLength : ChosenOr NamesNumber (valuesOf .epochLength line.given)
    (standardJob invocation.job.arguments).options.epochLength invocation.job.options.epochLength
  startTime : ChosenOr NamesNumber (valuesOf .startTime line.given)
    (standardJob invocation.job.arguments).options.startTime invocation.job.options.startTime
  bufferSize : Chosen NamesNumber (valuesOf .bufferSize line.given)
    invocation.job.options.bufferSize
  verbose : line.given.count .verbose = if invocation.verbose then 1 else 0

/-! ## Words -/

/-- A name is not empty and holds no equals sign. -/
def IsOptionName (name : String) : Prop :=
  name.toList ≠ [] ∧ ∀ c ∈ name.toList, decide (c ≠ '=') = true

/-- All options have such names. -/
theorem Setting.isOptionName_name (setting : Setting) : IsOptionName setting.name := by
  cases setting <;> exact ⟨by decide, List.all_eq_true.mp (by decide)⟩

/-- A plain word is positional, and no other word is. -/
theorem ofString_eq_positional_iff {word : String} :
    Word.ofString word = .positional ↔ IsPlainWord word := by
  have hdash : word = "-" ↔ word.toList = ['-'] := by
    rw [← String.toList_inj]
    rfl
  rw [Word.ofString, IsPlainWord, hdash]
  generalize word.toList = s
  unfold Word.ofChars
  split
  case h_1 => simp
  case h_2 => simp
  case h_3 => simp
  case h_4 rest _ =>
    split <;> simp
  case h_5 => simp
  case h_6 rest hne _ _ _ => simpa using fun hnil => hne (by rw [hnil])
  case h_7 hnil _ _ _ _ hplain =>
    simp only [true_iff]
    intro hhead
    obtain ⟨rest, rfl⟩ := List.head?_eq_some_iff.mp hhead
    exact absurd rfl (hplain rest)

/-- A word that starts with two dashes is cut at its first equals sign. -/
theorem ofChars_dashes {rest : List Char} (hne : rest ≠ []) :
    Word.ofChars ('-' :: '-' :: rest) =
      match rest.dropWhile (· ≠ '=') with
      | [] => .long (String.ofList rest) none
      | _ :: value => .long (String.ofList (rest.takeWhile (· ≠ '='))) (String.ofList value) := by
  obtain ⟨c, rest, rfl⟩ := List.exists_cons_of_ne_nil hne
  rfl

/-- An option without a value. -/
theorem ofString_long {name : String} (hname : IsOptionName name) :
    Word.ofString ("--" ++ name) = .long name none := by
  have hdrop : name.toList.dropWhile (· ≠ '=') = [] := by
    have happend : (name.toList ++ []).dropWhile (· ≠ '=') = [].dropWhile (· ≠ '=') :=
      List.dropWhile_append_of_pos hname.2
    rwa [List.append_nil] at happend
  have hchars : ("--" ++ name).toList = '-' :: '-' :: name.toList := by simp
  rw [Word.ofString, hchars, ofChars_dashes hname.1, hdrop]
  simp

/-- What follows the first equals sign of an option is its value. -/
theorem ofString_long_value {name value : String} (hname : IsOptionName name) :
    Word.ofString ("--" ++ name ++ "=" ++ value) = .long name (some value) := by
  have hchars : ("--" ++ name ++ "=" ++ value).toList =
      '-' :: '-' :: (name.toList ++ '=' :: value.toList) := by simp
  rw [Word.ofString, hchars, ofChars_dashes (by simp), List.dropWhile_append_of_pos hname.2,
    List.takeWhile_append_of_pos hname.2]
  simp

/-- The word of an option starts with two dashes, and its value follows an equals sign. -/
theorem eq_of_ofString_eq_long {word name : String} {value : Option String}
    (h : Word.ofString word = .long name value) :
    word = "--" ++ name ++ (value.map ("=" ++ ·)).getD "" := by
  rw [Word.ofString] at h
  rw [← String.toList_inj]
  generalize word.toList = s at h ⊢
  unfold Word.ofChars at h
  split at h
  case h_4 rest _ =>
    split at h
    case h_1 =>
      obtain ⟨rfl, rfl⟩ := Word.long.inj h
      simp
    case h_2 c tail hdrop =>
      obtain ⟨rfl, rfl⟩ := Word.long.inj h
      have hstop := List.head?_dropWhile_not (fun c : Char => decide (c ≠ '=')) rest
      rw [hdrop] at hstop
      obtain rfl : c = '=' := by simpa using hstop
      have hrest : rest.takeWhile (· ≠ '=') ++ '=' :: tail = rest := by
        rw [← hdrop, List.takeWhile_append_dropWhile]
      simpa using hrest.symm
  all_goals contradiction

/-- Two dashes alone end the options. -/
theorem eq_of_ofString_eq_endOfOptions {word : String} (h : Word.ofString word = .endOfOptions) :
    word = "--" := by
  rw [Word.ofString] at h
  rw [← String.toList_inj]
  generalize word.toList = s at h ⊢
  unfold Word.ofChars at h
  split at h
  case h_3 => rfl
  case h_4 => split at h <;> contradiction
  all_goals contradiction

/-! ## Collecting -/

namespace Collected

/-- Adds a part. -/
def add (collected : Collected) : Part → Except Refusal Collected
  | .positional given => collected.addPositional given
  | .option setting value _ => collected.addSetting setting value
  | .verbose => collected.addVerbose

end Collected

section Collect

variable {collected : Collected} {setting : Setting} {word value : String} {more : List String}

/-- An option that is joined to its value is added with it. -/
theorem collect_joined (h : Word.ofString word = .long setting.name (some value)) :
    collect collected (word :: more) =
      collected.addSetting setting value >>= fun collected => collect collected more := by
  cases setting <;> rw [collect, h] <;> rfl

/-- An option is added with the word after it. -/
theorem collect_spaced (h : Word.ofString word = .long setting.name none)
    (hvalue : Word.ofString value = .positional) :
    collect collected (word :: value :: more) =
      collected.addSetting setting value >>= fun collected => collect collected more := by
  cases setting <;> rw [collect, h] <;> exact if_pos hvalue

end Collect

/-- The words of a part are read as the part. -/
theorem collect_part {part : Part} (h : part.IsSpelled) (collected : Collected)
    (more : List String) :
    collect collected (part.words ++ more) =
      collected.add part >>= fun collected => collect collected more := by
  cases part with
  | positional given =>
    rw [Part.words, List.singleton_append, collect, ofString_eq_positional_iff.mpr h]
    rfl
  | verbose =>
    have hword : Word.ofString "--verbose" = .long "verbose" none := by decide
    rw [Part.words, List.singleton_append, collect, hword]
    rfl
  | option setting value joined =>
    have hname := setting.isOptionName_name
    cases joined with
    | true => exact collect_joined (ofString_long_value hname)
    | false =>
      exact collect_spaced (ofString_long hname) (ofString_eq_positional_iff.mpr (h rfl))

/-- The words of a line are read as what is given on it. -/
theorem collect_words {line : Line} (h : line.IsSpelled) (collected : Collected) :
    collect collected line.words = line.given.foldlM Collected.add collected := by
  obtain ⟨parts, rest⟩ := line
  induction parts generalizing collected with
  | nil =>
    cases rest with
    | none => rfl
    | some rest =>
      have hend : Word.ofString "--" = .endOfOptions := by decide
      have hwords : (⟨[], some rest⟩ : Line).words = "--" :: rest := rfl
      have hgiven : (⟨[], some rest⟩ : Line).given = rest.map Part.positional := rfl
      rw [hwords, hgiven, collect, hend, List.foldlM_map]
      rfl
  | cons part parts ih =>
    change (Line.prepend part ⟨parts, rest⟩).IsSpelled at h
    obtain ⟨hpart, hparts⟩ := Line.isSpelled_prepend.mp h
    change collect collected (Line.prepend part ⟨parts, rest⟩).words =
      (Line.prepend part ⟨parts, rest⟩).given.foldlM Collected.add collected
    rw [Line.words_prepend, Line.given_prepend, collect_part hpart, List.foldlM_cons]
    congr 1
    funext collected
    exact ih collected hparts

/-- A part in front of the words of a line. -/
theorem exists_line_prepend {part : Part} {more : List String} (hpart : part.IsSpelled)
    (h : ∃ line : Line, line.words = more ∧ line.IsSpelled) :
    ∃ line : Line, line.words = part.words ++ more ∧ line.IsSpelled := by
  obtain ⟨line, rfl, hline⟩ := h
  exact ⟨line.prepend part, Line.words_prepend part line, Line.isSpelled_prepend.mpr ⟨hpart, hline⟩⟩

/-- All words that are read belong to a line. -/
theorem exists_line_of_collect {collected last : Collected} {words : List String}
    (h : collect collected words = .ok last) :
    ∃ line : Line, line.words = words ∧ line.IsSpelled := by
  fun_induction collect collected words with
  | case1 => exact ⟨⟨[], none⟩, rfl, by simp [Line.IsSpelled]⟩
  | case2 collected given rest hword ih =>
    obtain ⟨next, -, hrest⟩ := bind_eq_ok_iff.mp h
    have hpart : (Part.positional given).IsSpelled := ofString_eq_positional_iff.mp hword
    exact exists_line_prepend hpart (ih next hrest)
  | case3 collected given rest hword =>
    obtain rfl := eq_of_ofString_eq_endOfOptions hword
    exact ⟨⟨[], some rest⟩, rfl, by simp [Line.IsSpelled]⟩
  | case7 collected given rest hword ih =>
    obtain ⟨next, -, hrest⟩ := bind_eq_ok_iff.mp h
    obtain rfl := eq_of_ofString_eq_long hword
    have hpart : Part.verbose.IsSpelled := trivial
    exact exists_line_prepend hpart (ih next hrest)
  | case8 collected given name setting value rest hfind _ _ hword ih =>
    obtain ⟨next, -, hrest⟩ := bind_eq_ok_iff.mp h
    obtain rfl : setting.name = name := by simpa using List.find?_some hfind
    obtain rfl : given = "--" ++ setting.name ++ "=" ++ value := by
      simpa [String.append_assoc] using eq_of_ofString_eq_long hword
    have hpart : (Part.option setting value true).IsSpelled := fun hjoined => nomatch hjoined
    exact exists_line_prepend hpart (ih next hrest)
  | case10 collected given name setting value rest hfind hvalue _ _ hword ih =>
    obtain ⟨next, -, hrest⟩ := bind_eq_ok_iff.mp h
    obtain rfl : setting.name = name := by simpa using List.find?_some hfind
    obtain rfl : given = "--" ++ setting.name := by simpa using eq_of_ofString_eq_long hword
    have hpart : (Part.option setting value false).IsSpelled :=
      fun _ => ofString_eq_positional_iff.mp hvalue
    exact exists_line_prepend hpart (ih next hrest)
  | case4 | case5 | case6 | case9 | case11 | case12 | case13 => contradiction

/-! ## What has been collected -/

@[simp] theorem positionalsOf_singleton (part : Part) :
    positionalsOf [part] = part.positional?.toList := by
  cases part <;> rfl

@[simp] theorem valuesOf_singleton (setting : Setting) (part : Part) :
    valuesOf setting [part] = (part.value? setting).toList := by
  rw [valuesOf, List.filterMap_cons]
  cases part.value? setting <;> rfl

@[simp] theorem positionalsOf_append (parts more : List Part) :
    positionalsOf (parts ++ more) = positionalsOf parts ++ positionalsOf more :=
  List.filterMap_append

@[simp] theorem valuesOf_append (setting : Setting) (parts more : List Part) :
    valuesOf setting (parts ++ more) = valuesOf setting parts ++ valuesOf setting more :=
  List.filterMap_append

/-- Up to six positional arguments, and the first of them is not empty. -/
def ArePositionals (given : List String) : Prop :=
  given.length ≤ Collected.arity ∧ given.head? ≠ some ""

/-- What has been collected is what the parts so far give. -/
structure Collected.Holds (collected : Collected) (parts : List Part) : Prop where
  positionals_eq : collected.positionals = positionalsOf parts
  arePositionals : ArePositionals (positionalsOf parts)
  layout : Chosen NamesLayout (valuesOf .layout parts) collected.layout
  epochLength : Chosen NamesNumber (valuesOf .epochLength parts) collected.epochLength
  startTime : Chosen NamesNumber (valuesOf .startTime parts) collected.startTime
  bufferSize : Chosen NamesNumber (valuesOf .bufferSize parts) collected.bufferSize
  verbose : parts.count .verbose = if collected.verbose then 1 else 0

/-- An option is read from its value as its value means. -/
def ReadsAs {α : Type} (read? : String → Option α) (Means : String → α → Prop) : Prop :=
  ∀ value a, read? value = some a ↔ Means value a

/-- The layouts are read by their names. -/
theorem readsAs_layout : ReadsAs Collected.readLayout? NamesLayout := by
  intro value layout
  unfold Collected.readLayout? NamesLayout
  split <;> simp_all [eq_comm]

/-- The numbers are read by their numerals. -/
theorem readsAs_number : ReadsAs Collected.readNumber? NamesNumber := by
  intro value n
  have hread : readNat maxNat64 value.toList = .ok n ↔ NamesNumber value n := readNat_eq_ok_iff
  rw [← hread, Collected.readNumber?]
  cases readNat maxNat64 value.toList <;> simp [Except.toOption]

/-- A value is accepted exactly when it is the first one that is given and means something. -/
theorem readOnce_eq_ok_iff {α : Type} {setting : Setting} {before value after : Option α}
    {given : String} :
    Collected.readOnce setting before value given = .ok after ↔
      before = none ∧ ∃ a, value = some a ∧ after = some a := by
  cases before <;> cases value <;> simp [Collected.readOnce, eq_comm]

/-- One more value is the only one. -/
theorem chosen_append_singleton {α : Type} {Means : String → α → Prop} {values : List String}
    {value : String} {after : Option α} :
    Chosen Means (values ++ [value]) after ↔ values = [] ∧ ∃ a, Means value a ∧ after = some a := by
  constructor
  · rintro (⟨hnil, -⟩ | ⟨only, a, honly, hmeans, rfl⟩)
    · simp at hnil
    · obtain ⟨rfl, hvalue⟩ := List.append_eq_singleton_iff.mp honly |>.resolve_right (by simp)
      obtain rfl := List.singleton_inj.mp hvalue
      exact ⟨rfl, a, hmeans, rfl⟩
  · rintro ⟨rfl, a, hmeans, rfl⟩
    exact Or.inr ⟨value, a, rfl, hmeans, rfl⟩

/-- Nothing is chosen exactly where no value is given. -/
theorem Chosen.eq_none_iff {α : Type} {Means : String → α → Prop} {values : List String}
    {chosen : Option α} (h : Chosen Means values chosen) : chosen = none ↔ values = [] := by
  rcases h with ⟨rfl, rfl⟩ | ⟨value, a, rfl, -, rfl⟩ <;> simp

/-- Nothing was chosen before one more value. -/
theorem Chosen.before {α : Type} {Means : String → α → Prop} {values : List String}
    {value : String} {after : Option α} (h : Chosen Means (values ++ [value]) after) :
    Chosen Means values none :=
  Or.inl ⟨(chosen_append_singleton.mp h).1, rfl⟩

/-- An option is read once, and as its value means. -/
theorem readOnce_iff_chosen {α : Type} {setting : Setting} {read? : String → Option α}
    {Means : String → α → Prop} (hread : ReadsAs read? Means) {values : List String}
    {before after : Option α} {value : String} (hbefore : Chosen Means values before) :
    Collected.readOnce setting before (read? value) value = .ok after ↔
      Chosen Means (values ++ [value]) after := by
  rw [readOnce_eq_ok_iff, chosen_append_singleton, hbefore.eq_none_iff]
  simp only [hread value]

/-- One more positional argument is one too many, or an empty path, or else there may be one. -/
theorem arePositionals_append_singleton {before : List String} {given : String} :
    ArePositionals (before ++ [given]) ↔
      ArePositionals before ∧ before.length < Collected.arity ∧ ¬(before = [] ∧ given = "") := by
  cases before with
  | nil => simp [ArePositionals, Collected.arity]
  | cons first before =>
    have hlength : (first :: before ++ [given]).length ≤ Collected.arity ↔
        (first :: before).length < Collected.arity := by
      rw [List.length_append]
      exact Nat.succ_le_iff
    rw [ArePositionals, ArePositionals, hlength, List.cons_append, List.head?_cons, List.head?_cons]
    constructor
    · rintro ⟨hroom, hne⟩
      exact ⟨⟨Nat.le_of_lt hroom, hne⟩, hroom, fun hnil => nomatch hnil.1⟩
    · rintro ⟨⟨-, hne⟩, hroom, -⟩
      exact ⟨hroom, hne⟩

/-- A positional argument is added where there may be one more. -/
theorem addPositional_eq_ok_iff {collected next : Collected} {given : String}
    (h : ArePositionals collected.positionals) :
    collected.addPositional given = .ok next ↔
      ArePositionals (collected.positionals ++ [given]) ∧
        { collected with positionals := collected.positionals ++ [given] } = next := by
  rw [arePositionals_append_singleton, Collected.addPositional]
  split
  · next hfull => simp [Nat.not_lt.mpr hfull]
  · next hroom =>
    split
    · next hpath => simp_all
    · next hpath => simp_all

/-- The flag is added where it has not been given. -/
theorem addVerbose_eq_ok_iff {collected next : Collected} :
    collected.addVerbose = .ok next ↔
      collected.verbose = false ∧ { collected with verbose := true } = next := by
  rw [Collected.addVerbose]
  split <;> simp_all

/-- Adding a part to what holds of the parts before gives what holds of all of them. -/
theorem holds_of_add {parts : List Part} {part : Part} {collected next : Collected}
    (hholds : collected.Holds parts) (hadd : collected.add part = .ok next) :
    next.Holds (parts ++ [part]) := by
  obtain ⟨hpositionals, hare, hlayout, hepoch, hstart, hbuffer, hverbose⟩ := hholds
  cases part with
  | positional given =>
    obtain ⟨hmore, rfl⟩ := (addPositional_eq_ok_iff (hpositionals ▸ hare)).mp hadd
    constructor <;> simp_all [Part.positional?, Part.value?]
  | option setting value joined =>
    -- One option is read, and everything else is as before.
    cases setting <;>
      simp only [Collected.add, Collected.addSetting, bind_eq_ok_iff,
        readOnce_iff_chosen readsAs_layout hlayout, readOnce_iff_chosen readsAs_number hepoch,
        readOnce_iff_chosen readsAs_number hstart,
        readOnce_iff_chosen readsAs_number hbuffer] at hadd
    all_goals
      obtain ⟨chosen, hchosen, hnext⟩ := hadd
      obtain rfl := Except.ok.inj hnext
      constructor <;> simp_all [Part.positional?, Part.value?]
  | verbose =>
    obtain ⟨hfirst, rfl⟩ := addVerbose_eq_ok_iff.mp hadd
    constructor <;> simp_all [Part.positional?, Part.value?]

/-- What holds of all parts comes from what holds of all but the last one, by adding the last
one. -/
theorem exists_add_of_holds {parts : List Part} {part : Part} {next : Collected}
    (h : next.Holds (parts ++ [part])) :
    ∃ collected : Collected, collected.Holds parts ∧ collected.add part = .ok next := by
  obtain ⟨hpositionals, hare, hlayout, hepoch, hstart, hbuffer, hverbose⟩ := h
  obtain ⟨positionals, layout, epochLength, startTime, bufferSize, verbose⟩ := next
  simp only [positionalsOf_append, valuesOf_append, positionalsOf_singleton, valuesOf_singleton,
    List.count_append] at hpositionals hare hlayout hepoch hstart hbuffer hverbose
  cases part with
  | positional given =>
    have hbefore : ArePositionals (positionalsOf parts) :=
      (arePositionals_append_singleton.mp hare).1
    refine ⟨⟨positionalsOf parts, layout, epochLength, startTime, bufferSize, verbose⟩, ?_, ?_⟩
    · constructor <;> simp_all [Part.positional?, Part.value?]
    · exact (addPositional_eq_ok_iff hbefore).mpr ⟨hare, by rw [hpositionals]; rfl⟩
  | option setting value joined =>
    cases setting with
    | layout =>
      have hread : Collected.readOnce .layout none (Collected.readLayout? value) value =
          .ok layout :=
        (readOnce_iff_chosen readsAs_layout hlayout.before).mpr hlayout
      refine ⟨⟨positionals, none, epochLength, startTime, bufferSize, verbose⟩, ?_,
        bind_eq_ok_iff.mpr ⟨layout, hread, rfl⟩⟩
      constructor <;> simp_all [Part.positional?, Part.value?, Chosen.before hlayout]
    | epochLength =>
      have hread : Collected.readOnce .epochLength none (Collected.readNumber? value) value =
          .ok epochLength :=
        (readOnce_iff_chosen readsAs_number hepoch.before).mpr hepoch
      refine ⟨⟨positionals, layout, none, startTime, bufferSize, verbose⟩, ?_,
        bind_eq_ok_iff.mpr ⟨epochLength, hread, rfl⟩⟩
      constructor <;> simp_all [Part.positional?, Part.value?, Chosen.before hepoch]
    | startTime =>
      have hread : Collected.readOnce .startTime none (Collected.readNumber? value) value =
          .ok startTime :=
        (readOnce_iff_chosen readsAs_number hstart.before).mpr hstart
      refine ⟨⟨positionals, layout, epochLength, none, bufferSize, verbose⟩, ?_,
        bind_eq_ok_iff.mpr ⟨startTime, hread, rfl⟩⟩
      constructor <;> simp_all [Part.positional?, Part.value?, Chosen.before hstart]
    | bufferSize =>
      have hread : Collected.readOnce .bufferSize none (Collected.readNumber? value) value =
          .ok bufferSize :=
        (readOnce_iff_chosen readsAs_number hbuffer.before).mpr hbuffer
      refine ⟨⟨positionals, layout, epochLength, startTime, none, verbose⟩, ?_,
        bind_eq_ok_iff.mpr ⟨bufferSize, hread, rfl⟩⟩
      constructor <;> simp_all [Part.positional?, Part.value?, Chosen.before hbuffer]
  | verbose =>
    obtain ⟨hnone, rfl⟩ : parts.count .verbose = 0 ∧ verbose = true := by
      cases verbose <;> simp_all
    refine ⟨⟨positionals, layout, epochLength, startTime, bufferSize, false⟩, ?_,
      addVerbose_eq_ok_iff.mpr ⟨rfl, rfl⟩⟩
    constructor <;> simp_all [Part.positional?, Part.value?]

/-- What is collected from parts is what holds of them. -/
theorem foldlM_add_eq_ok_iff {parts : List Part} {collected : Collected} :
    parts.foldlM Collected.add {} = .ok collected ↔ collected.Holds parts := by
  induction parts using List.reverseRecOn generalizing collected with
  | nil =>
    have hnone {α : Type} {Means : String → α → Prop} {chosen : Option α} :
        Chosen Means [] chosen ↔ chosen = none := by simp [Chosen]
    obtain ⟨positionals, layout, epochLength, startTime, bufferSize, verbose⟩ := collected
    constructor
    · intro h
      cases Except.ok.inj h
      constructor <;> simp [positionalsOf, valuesOf, ArePositionals, hnone]
    · rintro ⟨hpositionals, -, hlayout, hepoch, hstart, hbuffer, hverbose⟩
      obtain rfl : verbose = false := by simpa using hverbose
      obtain rfl : positionals = [] := hpositionals
      obtain rfl := hnone.mp hlayout
      obtain rfl := hnone.mp hepoch
      obtain rfl := hnone.mp hstart
      obtain rfl := hnone.mp hbuffer
      rfl
  | append_singleton parts part ih =>
    have hsingle (before : Collected) : [part].foldlM Collected.add before = before.add part := by
      rw [List.foldlM_cons]
      exact bind_pure _
    simp only [List.foldlM_append, bind_eq_ok_iff, ih, hsingle]
    constructor
    · rintro ⟨before, hbefore, hadd⟩
      exact holds_of_add hbefore hadd
    · exact exists_add_of_holds

/-! ## Reading -/

/-- Six positional arguments are those of a job, and what has not been chosen about it is
standard. -/
theorem toInvocation_eq_ok_iff {collected : Collected} {invocation : Invocation} :
    collected.toInvocation = .ok invocation ↔
      collected.positionals = sixArguments invocation.job.arguments ∧
      invocation.job.layout = collected.layout.getD (standardJob invocation.job.arguments).layout ∧
      invocation.job.options.epochLength =
        collected.epochLength.getD (standardJob invocation.job.arguments).options.epochLength ∧
      invocation.job.options.startTime =
        collected.startTime.getD (standardJob invocation.job.arguments).options.startTime ∧
      invocation.job.options.bufferSize = collected.bufferSize ∧
      invocation.verbose = collected.verbose := by
  obtain ⟨⟨⟨⟨basePath⟩, nodeIndex, clusterSize, addresses, firstTiming, secondTiming⟩, layout,
    ⟨epochLength, startTime, bufferSize⟩⟩, verbose⟩ := invocation
  rw [options_standardJob]
  unfold Collected.toInvocation
  split
  case h_1 first second third fourth fifth sixth hsix =>
    simp [hsix, sixArguments, standardJob, eq_comm, and_assoc]
  case h_2 hsix =>
    simp only [sixArguments]
    constructor
    · intro h
      contradiction
    · rintro ⟨hpositionals, -⟩
      exact absurd hpositionals (hsix _ _ _ _ _ _)

/-- **A command line is accepted exactly when its parts ask for something**, and it is read as what
they ask for. -/
theorem read_eq_ok_iff {words : List String} {invocation : Invocation} :
    Invocation.read words = .ok invocation ↔
      ∃ line : Line, line.words = words ∧ line.Asks invocation := by
  rw [Invocation.read, bind_eq_ok_iff]
  constructor
  · rintro ⟨collected, hcollect, hinvocation⟩
    obtain ⟨line, rfl, hspelled⟩ := exists_line_of_collect hcollect
    rw [collect_words hspelled, foldlM_add_eq_ok_iff] at hcollect
    obtain ⟨hpositionals, hlayout, hepoch, hstart, hbuffer, hverbose⟩ :=
      toInvocation_eq_ok_iff.mp hinvocation
    rw [hcollect.positionals_eq] at hpositionals
    refine ⟨line, rfl, ⟨hspelled, hpositionals, ?_, ⟨_, hcollect.layout, hlayout⟩,
      ⟨_, hcollect.epochLength, hepoch⟩, ⟨_, hcollect.startTime, hstart⟩, ?_, ?_⟩⟩
    · intro hempty
      have hne := hcollect.arePositionals.2
      rw [hpositionals, sixArguments, List.head?_cons, hempty] at hne
      exact hne rfl
    · rw [hbuffer]
      exact hcollect.bufferSize
    · rw [hcollect.verbose, hverbose]
  · rintro ⟨line, rfl, hasks⟩
    obtain ⟨layout, hlayout, hlayout_eq⟩ := hasks.layout
    obtain ⟨epochLength, hepoch, hepoch_eq⟩ := hasks.epochLength
    obtain ⟨startTime, hstart, hstart_eq⟩ := hasks.startTime
    have hare : ArePositionals (positionalsOf line.given) := by
      rw [hasks.positionals]
      exact ⟨Nat.le_refl 6, fun hempty => hasks.basePath_ne (Option.some.inj hempty)⟩
    refine ⟨⟨positionalsOf line.given, layout, epochLength, startTime,
      invocation.job.options.bufferSize, invocation.verbose⟩, ?_, ?_⟩
    · rw [collect_words hasks.spelled, foldlM_add_eq_ok_iff]
      exact ⟨rfl, hare, hlayout, hepoch, hstart, hasks.bufferSize, hasks.verbose⟩
    · exact toInvocation_eq_ok_iff.mpr
        ⟨hasks.positionals, hlayout_eq, hepoch_eq, hstart_eq, rfl, rfl⟩

end ClusterConfig.CommandLine
