import CallTrace.Elf.Error
import CallTrace.Failure
import CallTrace.Text.Signed

/-!
# Notices

What the tracer tells about itself.  Every notice has a level of severity and a topic, the part of
the tracer that it comes from.  A filter of levels shows the notices up to a level of detail.  The
lines of the trace are no notices and pass no filter.
-/

namespace CallTrace

/-- The severity of a notice, the gravest first. -/
inductive Level where
  | error
  | warn
  | info
  | debug
  | trace
deriving DecidableEq, Repr

namespace Level

/-- The level's name in a notice. -/
def name : Level → String
  | error => "ERROR"
  | warn => "WARN"
  | info => "INFO"
  | debug => "DEBUG"
  | trace => "TRACE"

/-- How much detail a level stands for. -/
def detail : Level → Nat
  | error => 1
  | warn => 2
  | info => 3
  | debug => 4
  | trace => 5

end Level

/-- Which notices are shown: those up to a level, or none at all. -/
structure LevelFilter where
  upTo : Option Level
deriving DecidableEq, Repr

namespace LevelFilter

/-- Whether notices of a level are shown. -/
def admits (filter : LevelFilter) (level : Level) : Bool :=
  filter.upTo.any fun limit => level.detail ≤ limit.detail

/-- The filter for a verbosity: 0 keeps warnings and errors, 1 adds what happens to modules and
how indirect exports resolve, and everything above shows each wrapped export too. -/
def ofVerbosity (verbose : UInt32) : LevelFilter :=
  ⟨some (if verbose = 0 then .warn else if verbose = 1 then .debug else .trace)⟩

/-- The filter that shows all notices. -/
def everything : LevelFilter := ⟨some .trace⟩

/-- The filter of a name, in any case, or of a number from 0 to 5. -/
def ofName? (name : String) : Option LevelFilter :=
  match Numeral.read? 10 UInt64.size name.toList, name.toLower with
  | some 0, _ | _, "off" => some ⟨none⟩
  | some 1, _ | _, "error" => some ⟨some .error⟩
  | some 2, _ | _, "warn" => some ⟨some .warn⟩
  | some 3, _ | _, "info" => some ⟨some .info⟩
  | some 4, _ | _, "debug" => some ⟨some .debug⟩
  | some 5, _ | _, "trace" => some ⟨some .trace⟩
  | _, _ => none

end LevelFilter

/-- What the tracer tells about itself. -/
inductive Notice where
  | unrecognizedOption (token : String)
  | mainExecutable (start : Address)
  | noMainExecutable
  | attached (onlyFromApp : Bool) (verbose : UInt32)
  | detached
  | forked
  | exiting
  | skippingMain (module : String)
  | wrapping (module symbol : String) (entry : Address) (resolver : Option Address)
  | loaded (module : String) (count : Nat)
  | unloaded (module : String) (count : Nat)
  | rollbackRefused (module : String) (pc : Address) (cause : WrapError)
  | rolledBack (module : String) (count : Nat)
  | refused (cause : InterceptError)
  | fatal (cause : InterceptError)
  | resolverFaulted (symbol : String) (resolver : Address) (fault : Fault)
  | indirected (symbol : String) (resolver entry : Address)
  | aliased (symbol : String) (entry : Address)
  | exportsUnreadable (module : String) (cause : ImageError)
  | ignoredMapping (path : String)
  | captured (modules : Nat) (pid : Int) (exe : String)
  | leftOver (count : Nat)
deriving DecidableEq, Repr

namespace Notice

/-- The level of a notice. -/
def level : Notice → Level
  | unrecognizedOption _ | fatal _ => .error
  | noMainExecutable | rollbackRefused .. | refused _ => .warn
  | attached .. | detached => .info
  | mainExecutable _ | forked | exiting | skippingMain _ | loaded .. | unloaded .. | rolledBack ..
  | resolverFaulted .. | indirected .. | exportsUnreadable .. | captured .. | leftOver _ => .debug
  | wrapping .. | aliased .. | ignoredMapping _ => .trace

/-- The part of the tracer that a notice comes from. -/
def topic : Notice → String
  | unrecognizedOption _ => "libtrace::options"
  | mainExecutable _ | noMainExecutable | attached .. | detached | forked | exiting | fatal _ =>
    "libtrace::session"
  | skippingMain _ | wrapping .. | loaded .. | unloaded .. | rollbackRefused .. | rolledBack ..
  | refused _ => "libtrace::interception"
  | resolverFaulted .. | indirected .. | aliased .. => "libtrace::exports"
  | exportsUnreadable .. | captured .. => "libtrace::process"
  | ignoredMapping _ => "libtrace::process::maps"
  | leftOver _ => "libtrace"

private def count (n : Nat) : String := String.ofList (Numeral.write 10 n)

private def flag (b : Bool) : String := if b then "true" else "false"

/-- The text of a notice. -/
def text : Notice → String
  | unrecognizedOption token => "UNRECOGNIZED OPTION: \"" ++ token ++ "\""
  | mainExecutable start => "main executable at " ++ start.text
  | noMainExecutable => "no main executable reported; all modules will be wrapped"
  | attached onlyFromApp verbose =>
    "session attached (only_from_app=" ++ flag onlyFromApp ++ ", verbose=" ++
      count verbose.toNat ++ ")"
  | detached => "session detached"
  | forked => "process forked; tracing continues in child"
  | exiting => "process exiting"
  | skippingMain module => "skipping exports of main executable " ++ module
  | wrapping module symbol entry none =>
    "wrapping export " ++ module ++ "!" ++ symbol ++ " @" ++ entry.text
  | wrapping module symbol entry (some resolver) =>
    "wrapping export " ++ module ++ "!" ++ symbol ++ " @" ++ entry.text ++ " (resolved via " ++
      resolver.text ++ ")"
  | loaded module n => "module " ++ module ++ " loaded: " ++ count n ++ " exports wrapped"
  | unloaded module n => "module " ++ module ++ " unloaded: " ++ count n ++ " exports unwrapped"
  | rollbackRefused module pc cause =>
    "cannot roll back " ++ module ++ "@" ++ pc.text ++ ": " ++ cause.message
  | rolledBack module n => "module " ++ module ++ ": rolled back " ++ count n ++ " registrations"
  | refused cause | fatal cause => cause.message
  | resolverFaulted symbol resolver fault =>
    "export " ++ symbol ++ " resolver at " ++ resolver.text ++ " faulted: " ++ fault.message
  | indirected symbol resolver entry =>
    "export " ++ symbol ++ " indirected from " ++ resolver.text ++ " to " ++ entry.text
  | aliased symbol entry => "export " ++ symbol ++ " aliases " ++ entry.text
  | exportsUnreadable module cause =>
    "cannot read exports of " ++ module ++ ": " ++ cause.message ++ ": " ++ cause.reason
  | ignoredMapping path => "ignoring non-object mapping " ++ path
  | captured modules pid exe =>
    "captured " ++ count modules ++ " modules of pid=" ++ Numeral.signed pid ++ " (main executable: " ++
      exe ++ ")"
  | leftOver n => count n ++ " registrations left after unloading all modules"

/-- A notice as one shows it: its level and its text. -/
def display (notice : Notice) : String := notice.level.name ++ " " ++ notice.text

end Notice

end CallTrace
