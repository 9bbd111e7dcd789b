/-
# Reading the command line

A command line holds six positional arguments and any number of options among them. An option is
given as `--name value` or as `--name=value`, a flag as `--name`, and each of them at most once.
What follows `--` is positional, and so is `-` alone; everything else that starts with `-` has
to be an option.
-/
import ClusterConfig.Job

namespace ClusterConfig.CommandLine

open Text

/-! ## Options -/

/-- The options that take a value. -/
inductive Setting where
  | layout
  | epochLength
  | startTime
  | bufferSize
  deriving DecidableEq, Repr

/-- The name of an option on the command line. -/
def Setting.name : Setting → String
  | layout => "variant"
  | epochLength => "epoch-len"
  | startTime => "start-time"
  | bufferSize => "buffer-size"

/-- All options that take a value. -/
def Setting.all : List Setting := [.layout, .epochLength, .startTime, .bufferSize]

/-- What is wrong with a command line. -/
inductive UsageFault where
  | unknownOption (given : String)
  | repeatedOption (name : String)
  | missingValue (name : String)
  | unexpectedValue (name : String)
  | invalidValue (name given : String)
  | emptyPath
  | tooManyArguments (given : String)
  | missingArguments
  deriving DecidableEq, Repr

/-- The wording of a fault. -/
def UsageFault.message : UsageFault → String
  | unknownOption given => "unexpected argument '" ++ given ++ "'"
  | repeatedOption name => "the option '--" ++ name ++ "' cannot be used more than once"
  | missingValue name => "the option '--" ++ name ++ "' needs a value"
  | unexpectedValue name => "the option '--" ++ name ++ "' takes no value"
  | invalidValue name given => "invalid value '" ++ given ++ "' for '--" ++ name ++ "'"
  | emptyPath => "the base path is empty"
  | tooManyArguments given => "unexpected argument '" ++ given ++ "'"
  | missingArguments => "too few arguments"

/-- Why a command line starts no job. -/
inductive Refusal where
  | fault (fault : UsageFault)
  | help
  deriving DecidableEq, Repr

/-! ## Collecting arguments -/

/-- What has been read of a command line. -/
structure Collected where
  positionals : List String := []
  layout : Option KeyLayout := none
  epochLength : Option Nat := none
  startTime : Option Nat := none
  bufferSize : Option Nat := none
  verbose : Bool := false
  deriving DecidableEq, Repr

namespace Collected

/-- The number of positional arguments. -/
def arity : Nat := 6

/-- Adds a positional argument. The first one is a path, which is never empty. -/
def addPositional (collected : Collected) (given : String) : Except Refusal Collected :=
  if collected.positionals.length ≥ arity then .error (.fault (.tooManyArguments given))
  else if collected.positionals.isEmpty && given = "" then .error (.fault .emptyPath)
  else .ok { collected with positionals := collected.positionals ++ [given] }

/-- Reads the value of an option that is not to be given twice. -/
def readOnce {α : Type} (setting : Setting) (before value : Option α) (given : String) :
    Except Refusal (Option α) :=
  match before, value with
  | some _, _ => .error (.fault (.repeatedOption setting.name))
  | none, some value => .ok (some value)
  | none, none => .error (.fault (.invalidValue setting.name given))

/-- The layout of a name. -/
def readLayout? : String → Option KeyLayout
  | "authority" => some .authority
  | "keypair" => some .keypair
  | _ => none

/-- A number of 64 bits. -/
def readNumber? (given : String) : Option Nat := (readNat maxNat64 given.toList).toOption

/-- Adds an option with its value. -/
def addSetting (collected : Collected) (setting : Setting) (given : String) :
    Except Refusal Collected :=
  match setting with
  | .layout => do
    let layout ← readOnce setting collected.layout (readLayout? given) given
    return { collected with layout }
  | .epochLength => do
    let epochLength ← readOnce setting collected.epochLength (readNumber? given) given
    return { collected with epochLength }
  | .startTime => do
    let startTime ← readOnce setting collected.startTime (readNumber? given) given
    return { collected with startTime }
  | .bufferSize => do
    let bufferSize ← readOnce setting collected.bufferSize (readNumber? given) given
    return { collected with bufferSize }

/-- Adds the flag for a detailed log. -/
def addVerbose (collected : Collected) : Except Refusal Collected :=
  if collected.verbose then .error (.fault (.repeatedOption "verbose"))
  else .ok { collected with verbose := true }

end Collected

/-! ## The forms of arguments -/

/-- What an argument can be. -/
inductive Word where
  | positional
  | endOfOptions
  /-- An option, with the value after its equals sign if there is one. -/
  | long (name : String) (value : Option String)
  | help
  | unknown
  deriving DecidableEq, Repr

/-- The form of an argument. -/
def Word.ofChars : List Char → Word
  | [] | ['-'] => .positional
  | ['-', '-'] => .endOfOptions
  | '-' :: '-' :: rest =>
    match rest.dropWhile (· ≠ '=') with
    | [] => .long (String.ofList rest) none
    | _ :: value => .long (String.ofList (rest.takeWhile (· ≠ '='))) (String.ofList value)
  | '-' :: 'h' :: _ => .help
  | '-' :: _ => .unknown
  | _ => .positional

/-- The form of an argument. -/
def Word.ofString (given : String) : Word := .ofChars given.toList

/-! ## Reading -/

/-- Reads the rest of a command line. -/
def collect (collected : Collected) : List String → Except Refusal Collected
  | [] => .ok collected
  | given :: rest =>
    match Word.ofString given with
    | .positional => do collect (← collected.addPositional given) rest
    | .endOfOptions => rest.foldlM Collected.addPositional collected
    | .help => .error .help
    | .unknown => .error (.fault (.unknownOption given))
    | .long "help" none => .error .help
    | .long "verbose" none => do collect (← collected.addVerbose) rest
    | .long name value =>
      match Setting.all.find? (·.name = name), value, rest with
      | some setting, some value, rest => do collect (← collected.addSetting setting value) rest
      | some setting, none, [] => .error (.fault (.missingValue setting.name))
      | some setting, none, value :: rest =>
        if Word.ofString value = .positional then do
          collect (← collected.addSetting setting value) rest
        else .error (.fault (.missingValue setting.name))
      | none, _, _ =>
        if name = "help" || name = "verbose" then .error (.fault (.unexpectedValue name))
        else .error (.fault (.unknownOption given))

/-- A job and how much of its log is shown. -/
structure Invocation where
  job : Job
  verbose : Bool
  deriving DecidableEq, Repr

/-- The length of an epoch that a command line asks for when it gives none. -/
def standardEpochLength : Nat := 10

/-- The start time that a command line asks for when it gives none. -/
def standardStartTime : Nat := 1

/-- What a command line asks for, once all of it is read. -/
def Collected.toInvocation (collected : Collected) : Except Refusal Invocation :=
  match collected.positionals with
  | [basePath, nodeIndex, clusterSize, addresses, firstTiming, secondTiming] =>
    .ok {
      job := {
        arguments := {
          basePath := ⟨basePath⟩
          nodeIndex, clusterSize, addresses, firstTiming, secondTiming }
        layout := collected.layout.getD .authority
        options := {
          epochLength := collected.epochLength.getD standardEpochLength
          startTime := collected.startTime.getD standardStartTime
          bufferSize := collected.bufferSize } }
      verbose := collected.verbose }
  | _ => .error (.fault .missingArguments)

/-- Reads a command line. -/
def Invocation.read (arguments : List String) : Except Refusal Invocation := do
  (← collect {} arguments).toInvocation

end ClusterConfig.CommandLine
