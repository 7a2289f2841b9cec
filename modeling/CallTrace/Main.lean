import CallTrace.Program

/-!
# The command

Gathers what the program needs to know of the system it runs on, which are the memory maps of the
processes it may be asked for and the files that they name, and prints what the program answers.
-/

namespace CallTrace.Main

/-- The contents of a file, if it can be read. -/
def contents? (path : String) : IO (Option (String × Option Bytes)) := do
  try
    let bytes ← IO.FS.readBinFile path
    return some (path, some bytes.data)
  catch _ => return none

/-- The number of this process, by which the process file system shows it. -/
def ownNumber : IO Int := do
  let place ← IO.FS.realPath "/proc/self"
  return (((Path.ofString place.toString).fileName?).bind String.toInt?).getD 0

/-- What the process file system shows under a number, if it shows anything. -/
def processOf? (pid : Int) : IO (Option Observed) := do
  let place := "/proc/" ++ Numeral.signed pid
  try
    let _ ← IO.FS.realPath place
    let maps ← try pure (.ok (← IO.FS.readFile (place ++ "/maps")))
      catch _ => pure (.error .permissionDenied)
    let exe ← try pure (.ok (← IO.FS.realPath (place ++ "/exe")).toString)
      catch _ => pure (.error .permissionDenied)
    return some ⟨maps, exe⟩
  catch _ => return none

/-- The system, as far as one process needs it. -/
def systemFor (pid : Int) : IO HostSystem := do
  match ← processOf? pid with
  | none => return ⟨[], FileTree.empty⟩
  | some process =>
    let modules := process.maps.toOption.elim [] MappedModule.ofText
    let files ← modules.filterMapM fun m => contents? m.path
    return ⟨[(pid, process)], FileTree.ofList files⟩

/-- Prints a rendered plan; a reader that went away is no failure. -/
def printPlan (rendered : String) : IO (Option (WriteError IO.Error)) := do
  let output ← IO.getStdout
  try
    output.putStr rendered
    output.flush
    return none
  catch
    | .resourceVanished .. => return none
    | cause => return some (.further cause cause.toString)

/-- Runs the program on this system. -/
def execute (words : List String) : IO Program.Outcome := do
  let self ← ownNumber
  let invocation : Program.Invocation :=
    ⟨words, ← IO.getEnv "LIBTRACE_OPTIONS", ← IO.getEnv "RUST_LOG", self⟩
  let system ← systemFor (invocation.target.getD self)
  match Program.prepare system invocation with
  | .error outcome =>
    let _ ← printPlan outcome.output
    return outcome
  | .ok printing => return Program.finish printing (← printPlan printing.rendered)

end CallTrace.Main

/-- The command: the plan goes to the output, everything else to the error stream. -/
def main (words : List String) : IO UInt32 := do
  let outcome ← CallTrace.Main.execute words
  (← IO.getStderr).putStr outcome.errors
  return outcome.status.code
