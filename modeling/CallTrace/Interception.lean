import CallTrace.Enumeration

/-!
# Interception

Keeps the registrations in step with the loaded modules: every entry point of a library is
wrapped when the library loads and unwrapped when it goes.  The main executable is never wrapped.

When the engine refuses a request, `ConsistencyChecks` decides.  With `abort` the first refusal
ends the work; a load then takes back what it has installed, an unload leaves the rest in place.
With `ignore` the refusal is noted and the work goes on.
-/

namespace CallTrace.Interception

/-- Whether a module is the main executable, which its start decides. -/
def isMainExecutable (interception : Interception) (m : Module) : Bool :=
  interception.recorder.exeStart = some m.start

/-- Takes back the registrations of a load that is given up. -/
def rollBack (engine : Engine) (m : Module) (installed : List Address) (run : Run) : Run :=
  let run := installed.foldl (fun run pc =>
    match engine.unwrap pc recorderId run with
    | (none, run) => run
    | (some cause, run) => run.note (.rollbackRefused m.name pc cause)) run
  run.note (.rolledBack m.name installed.length)

/-- Wraps entry points one by one; `installed` are those that the load has wrapped so far.  The
answer is their number in the end. -/
def wrapAll (interception : Interception) (engine : Engine) (m : Module)
    (installed : List Address) : List ResolvedExport → Run → Except InterceptError Nat × Run
  | [], run => (.ok installed.length, run.note (.loaded m.name installed.length))
  | symbol :: rest, run =>
    match engine.wrap symbol.entry (.recorder interception.recorder) symbol.name run with
    | (none, run) =>
      interception.wrapAll engine m (installed ++ [symbol.entry]) rest
        (run.note (.wrapping m.name symbol.name symbol.entry symbol.resolver))
    | (some cause, run) =>
      let failure := InterceptError.wrapFailed m.name symbol.name cause
      match interception.checks with
      | .abort => (.error failure, rollBack engine m installed run)
      | .ignore => interception.wrapAll engine m installed rest (run.note (.refused failure))

/-- A module has loaded: wraps its entry points and answers how many were wrapped. -/
def onLoad (interception : Interception) (engine : Engine) (m : Module) (run : Run) :
    Except InterceptError Nat × Run :=
  if interception.isMainExecutable m then (.ok 0, run.note (.skippingMain m.name))
  else
    let (symbols, run) := engine.enumerate m run
    interception.wrapAll engine m [] symbols run

/-- Unwraps entry points one by one; `removed` is the number unwrapped so far. -/
def unwrapAll (interception : Interception) (engine : Engine) (m : Module) (removed : Nat) :
    List ResolvedExport → Run → Except InterceptError Nat × Run
  | [], run => (.ok removed, run.note (.unloaded m.name removed))
  | symbol :: rest, run =>
    match engine.unwrap symbol.entry recorderId run with
    | (none, run) => interception.unwrapAll engine m (removed + 1) rest run
    | (some cause, run) =>
      let failure := InterceptError.unwrapFailed m.name symbol.name cause
      match interception.checks with
      | .abort => (.error failure, run)
      | .ignore => interception.unwrapAll engine m removed rest (run.note (.refused failure))

/-- A module is about to go: unwraps its entry points and answers how many were unwrapped. -/
def onUnload (interception : Interception) (engine : Engine) (m : Module) (run : Run) :
    Except InterceptError Nat × Run :=
  if interception.isMainExecutable m then (.ok 0, run)
  else
    let (symbols, run) := engine.enumerate m run
    interception.unwrapAll engine m 0 symbols run

end CallTrace.Interception
