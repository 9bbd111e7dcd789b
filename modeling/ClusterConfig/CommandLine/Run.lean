/-
# Running a command line

What a command line does to a file tree and what it shows: an exit code, text on the standard
output, the log, and after the log a report of what went wrong. A failed job is reported with
its causes, the outermost first; they are numbered when there are several.

Main statement: a command line that is refused, or whose job fails, leaves the file tree as it was
(`run_tree_of_exitCode_ne_zero`).
-/
import ClusterConfig.CommandLine.Invocation

namespace ClusterConfig.CommandLine

open Text

/-! ## Reports -/

/-- A cause after its mark. Further lines of a cause are indented. -/
def causeChars (mark indent : List Char) (cause : String) : List Char :=
  mark ++ ('\n' :: indent).intercalate (cause.toList.splitOn '\n')

/-- The causes of a failure, each on a line of its own. -/
def causesChars : List String → List (List Char)
  | [cause] => [causeChars (List.replicate 4 ' ') (List.replicate 4 ' ') cause]
  | causes => causes.mapIdx fun number cause =>
    let digits := decimal number
    causeChars (List.replicate (5 - digits.length) ' ' ++ digits ++ [':', ' '])
      (List.replicate 7 ' ') cause

/-- The report on a failed job. -/
def failureReport (job : Job) (failure : Failure) : String :=
  "Error: generating config of node " ++ job.arguments.nodeIndex ++ "\n\nCaused by:\n" ++
    String.ofList (['\n'].intercalate (causesChars failure.causes)) ++ "\n"

/-! ## Results -/

/-- What a run shows. -/
structure Result where
  exitCode : Nat
  output : String := ""
  log : List Event := []
  report : String := ""
  deriving DecidableEq, Repr

/-- The summary of the command line. -/
def usage : String :=
  "Usage: [OPTIONS] <BASE_PATH> <NODE_INDEX> <CLUSTER_SIZE> <PEER_ADDRS> <PARAM1> <PARAM2>\n\n" ++
  "Options:\n" ++
  "      --variant <VARIANT>          Key layout: authority (default) or keypair\n" ++
  "      --epoch-len <EPOCH_LEN>      Epoch length in blocks, 10 unless given\n" ++
  "      --start-time <START_TIME>    Start time of the chain, 1 unless given\n" ++
  "      --buffer-size <BUFFER_SIZE>  Network buffer size, left out unless given\n" ++
  "      --verbose                    Log debug events\n" ++
  "  -h, --help                       Print this summary\n"

/-- What is shown of a command line that starts no job. -/
def Refusal.toResult : Refusal → Result
  | .help => { exitCode := 0, output := usage }
  | .fault cause => { exitCode := 2, report := "error: " ++ cause.message ++ "\n\n" ++ usage }

namespace Invocation

/-- The events that are shown. -/
def shownEvents (invocation : Invocation) (log : List Event) : List Event :=
  if invocation.verbose then log else log.filter (·.level = .info)

/-- What is shown of a job that has come to an end. -/
def toResult (invocation : Invocation) (ended : Logged Path) : Result :=
  match ended.result with
  | .ok _ => { exitCode := 0, log := invocation.shownEvents ended.log }
  | .error failure =>
    { exitCode := 1
      log := invocation.shownEvents ended.log
      report := failureReport invocation.job failure }

end Invocation

/-! ## Running -/

/-- Runs a command line on a file tree. -/
def run (arguments : List String) (tree : FileTree) : Result × FileTree :=
  match Invocation.read arguments with
  | .error refusal => (refusal.toResult, tree)
  | .ok invocation =>
    let (ended, changed) := invocation.job.generate tree
    (invocation.toResult ended, changed)

/-- A command line that is refused, or whose job fails, leaves the file tree as it was. -/
theorem run_tree_of_exitCode_ne_zero {arguments : List String} {tree : FileTree}
    (h : (run arguments tree).1.exitCode ≠ 0) : (run arguments tree).2 = tree := by
  unfold run at h ⊢
  split
  · rfl
  · next invocation hread =>
    rw [hread] at h
    cases hresult : (invocation.job.generate tree).1.result with
    | error failure => exact Job.generate_tree_of_error hresult
    | ok path => simp [Invocation.toResult, hresult] at h

end ClusterConfig.CommandLine
