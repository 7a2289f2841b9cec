import CallTrace.CommandLine
import CallTrace.Plan.Delivery
import CallTrace.Plan.Json
import CallTrace.Snapshot

/-!
# The program

Shows the plan of a process: reads the command line and the option string, takes a snapshot of the
process, attaches a session to it, lets it wrap what is loaded, prints the plan, and lets all of it
go again.  The system that the program runs on is given as a value; what the program does with it
is computed up to the point where the plan is printed, and from there on with the outcome of the
printing.
-/

namespace CallTrace

/-- A process as the system shows it: the text of its memory maps and the file of its
executable. -/
structure Observed where
  maps : Except OsError String
  exe : Except OsError String

/-- The processes of a system by number, and its files. -/
structure HostSystem where
  processes : List (Int × Observed)
  files : FileTree

/-- Why no snapshot of a process can be taken. -/
inductive CaptureError where
  | noProcess (pid : Int)
  | unreadableMaps (pid : Int) (cause : OsError)
  | unresolvedExe (pid : Int) (cause : OsError)
deriving DecidableEq, Repr

namespace CaptureError

/-- What the error kept from being done. -/
def context : CaptureError → String
  | noProcess pid => "No such process: " ++ Numeral.signed pid
  | unreadableMaps pid _ => "Failed to read /proc/" ++ Numeral.signed pid ++ "/maps"
  | unresolvedExe pid _ => "Failed to resolve main executable of " ++ Numeral.signed pid

/-- The reason for the error. -/
def reason : CaptureError → String
  | noProcess _ => "ESRCH: No such process"
  | unreadableMaps _ cause | unresolvedExe _ cause => cause.message

/-- The text of an error with its reason. -/
def message (error : CaptureError) : String := error.context ++ ": " ++ error.reason

end CaptureError

namespace HostSystem

/-- What the system shows under a number.  Number 0 stands for the group of the caller and -1 for
all processes; both exist but have neither maps nor an executable. -/
def observed? (system : HostSystem) (pid : Int) : Option Observed :=
  if pid = 0 ∨ pid = -1 then some ⟨.error .notFound, .error .notFound⟩
  else (system.processes.find? (·.1 = pid)).map (·.2)

/-- Takes a snapshot of a process, with the notices that come up. -/
def capture (system : HostSystem) (pid : Int) : Except CaptureError (Snapshot × List Notice) :=
  match system.observed? pid with
  | none => .error (.noProcess pid)
  | some ⟨.error cause, _⟩ => .error (.unreadableMaps pid cause)
  | some ⟨.ok _, .error cause⟩ => .error (.unresolvedExe pid cause)
  | some ⟨.ok text, .ok exe⟩ =>
    let (modules, ignored) :=
      MappedModule.retainObjectFiles system.files (MappedModule.ofText text)
    .ok (⟨pid, system.files, modules, some exe⟩, ignored ++ [.captured modules.length pid exe])

end HostSystem

namespace Program

/-- How the program is called. -/
structure Invocation where
  words : List String
  /-- The option string of the environment. -/
  environment : Option String
  /-- The text of the filter of notices that the environment asks for. -/
  filterText : Option String
  /-- The number of the program's own process. -/
  self : Int
deriving DecidableEq, Repr

/-- The process that the command line names, if it names one. -/
def Invocation.target (invocation : Invocation) : Option Int :=
  (CommandLine.parse invocation.words invocation.environment).toOption.bind (·.pid)

/-- The text of an error that ends the program, with what caused it on lines of its own. -/
def errorText (context cause : String) : String :=
  let indented := cause.toList.flatMap fun c => if c = '\n' then "\n    ".toList else [c]
  "Error: " ++ context ++ "\n\nCaused by:\n    " ++ String.ofList indented ++ "\n"

/-- How a program has ended. -/
inductive Status where
  | exit (code : Nat)
  /-- The process has aborted itself. -/
  | aborted
deriving DecidableEq, Repr

/-- The number that stands for the end of a program; for an abort it is that of the signal behind
128. -/
def Status.code : Status → UInt32
  | exit code => UInt32.ofNat code
  | aborted => 128 + 6

/-- What a program leaves behind. -/
structure Outcome where
  status : Status
  output : String
  errors : String
deriving DecidableEq, Repr

/-- A program that is about to print its plan. -/
structure Printing where
  snapshot : Snapshot
  session : Session
  run : Run
  filter : NoticeFilter
  /-- What has been said about the text of the filter. -/
  complaints : String
  rendered : String

/-- The filter of notices: by the text that asks for one if it has rules, else by the verbosity. -/
def filterOf (text : Option String) (verbose : UInt32) : NoticeFilter :=
  NoticeFilter.ofString (LevelFilter.ofVerbosity verbose) (text.getD "")

/-- The verbosity of a run: that of the options, or at least 2 for a run that shows everything. -/
def verbosity (line : CommandLine) (options : Options) : UInt32 :=
  if line.debug then max options.verbose 2 else options.verbose

/-- A plan in the format asked for. -/
def render (format : OutputFormat) (plan : Plan) : String :=
  match format with
  | .text => plan.text
  | .json => plan.json ++ "\n"

/-- What is shown for a command line that asks for no run.  `interruption` tells what a line feed
does to an escape sequence in it: the text may be shown as a whole or written to a stream. -/
def halted (interruption : Text.Interruption) (environment : Option String) : Halt → Outcome
  | .usage cause => ⟨.exit 2, "", Text.visible interruption cause.message ++ "\n"⟩
  | .shortHelp =>
    ⟨.exit 0, Text.visible interruption (CommandLine.shortHelp (environment.getD "")), ""⟩
  | .longHelp =>
    ⟨.exit 0, Text.visible interruption (CommandLine.longHelp (environment.getD "")), ""⟩
  | .version => ⟨.exit 0, CommandLine.versionText, ""⟩

/-- The program up to the printing of its plan.  The option string is judged before anything is
done about the process. -/
def prepare (system : HostSystem) (invocation : Invocation) : Except Outcome Printing :=
  match CommandLine.parse invocation.words invocation.environment with
  | .error halt => .error (halted .postpones invocation.environment halt)
  | .ok line =>
    match Options.parse line.options with
    | .error cause =>
      .error ⟨.exit 1, "", errorText "Invalid tracer options" cause.message⟩
    | .ok options =>
      let filter := filterOf invocation.filterText (verbosity line options)
      let complaints := NoticeFilter.complaints (invocation.filterText.getD "")
      match system.capture (line.pid.getD invocation.self) with
      | .error cause => .error ⟨.exit 1, "", complaints ++ errorText cause.context cause.reason⟩
      | .ok (snapshot, notices) =>
        let run := notices.foldl Run.note Run.start
        let (session, run) := Session.attach snapshot.engine options .standard .abort run
        let run := snapshot.replayLoads run
        if run.journal.aborted then
          .error ⟨.aborted, "", complaints ++ run.journal.errorStream filter⟩
        else
          let plan := snapshot.plan options.onlyFromApp run
          .ok ⟨snapshot, session, run, filter, complaints, render line.format plan⟩

/-- The program behind the printing of its plan, which may have failed. -/
def finish {Further : Type} (printing : Printing) (failure : Option (WriteError Further)) :
    Outcome :=
  match failure with
  | some cause =>
    let run := printing.session.detach printing.run
    ⟨.exit 1, "", printing.complaints ++ run.journal.errorStream printing.filter ++
      errorText "Failed to write registration plan" cause.message⟩
  | none =>
    let run := printing.snapshot.replayUnloads printing.run
    let run := run.note (.leftOver (printing.snapshot.rows run).length)
    let run := printing.session.detach (printing.snapshot.notifyExit run)
    ⟨if run.journal.aborted then .aborted else .exit 0, printing.rendered,
      printing.complaints ++ run.journal.errorStream printing.filter⟩

/-- The whole program with a writer that accepts everything. -/
def run (system : HostSystem) (invocation : Invocation) : Outcome :=
  match prepare system invocation with
  | .error outcome => outcome
  | .ok printing => finish printing (none : Option WriteError)

end Program

end CallTrace
