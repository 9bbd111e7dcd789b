/-
# The program

Runs its command line on the files of the machine. What is decided is decided elsewhere: here
files are read and written, and what a run shows is printed.
-/
import ClusterConfig.CommandLine.Run

namespace ClusterConfig.Main

/-- The fault that an error of the operating system stands for. -/
def fault? : IO.Error → Option IoFault
  | .noFileOrDirectory .. => some .notFound
  | .inappropriateType _ 21 _ => some .isDirectory
  | .inappropriateType _ 20 _ => some .notDirectory
  | .invalidArgument _ 36 _ => some .nameTooLong
  | _ => none

/-- Does something with a file; a fault is a result. -/
def attempt {α : Type} (action : IO α) : IO (Except IoFault α) := do
  try
    return .ok (← action)
  catch error =>
    match fault? error with
    | some fault => return .error fault
    | none => throw error

/-- Reads the file at a path. -/
def readText (path : Path) : IO (Except IoFault String) := do
  return (← attempt (IO.FS.readBinFile path.text)).bind decodeText

/-- Writes the document of a plan. -/
def save (plan : Plan) : IO (Except IoFault Unit) :=
  attempt (IO.FS.writeFile plan.path.text plan.document.render)

/-- Runs a job: all files that it may read are read, then it is planned, then its document is
written. -/
def generate (job : Job) : IO (Logged Path) := do
  let contents ← job.sources.mapM fun path => return (path, ← readText path)
  let planned := job.plan fun path => (contents.lookup path).getD (.error .notFound)
  match planned.result with
  | .error failure => return ⟨planned.log, .error failure⟩
  | .ok plan =>
    let written ← save plan
    return planned >>= (·.conclude written)

/-- Runs a command line. -/
def run (arguments : List String) : IO CommandLine.Result := do
  match CommandLine.Invocation.read arguments with
  | .error refusal => return refusal.toResult
  | .ok invocation => return invocation.toResult (← generate invocation.job)

end ClusterConfig.Main

/-- The program. -/
def main (arguments : List String) : IO UInt32 := do
  let result ← ClusterConfig.Main.run arguments
  IO.print result.output
  for event in result.log do
    IO.eprintln event.line
  IO.eprint result.report
  return result.exitCode.toUInt32
