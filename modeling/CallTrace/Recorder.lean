import CallTrace.Engine

/-!
# Recording calls

When a wrapped function is called, the hooks at its address run in the order of their
identities.  A recorder judges a call by its return address and writes a line for it, unless it
only looks for calls of the application and the call does not come from there.  Only recorders write
to the trace; a hook that somebody else installed has no way to it.
-/

namespace CallTrace

/-- A call of a wrapped function: the function's address, and the return address if it can be
read. -/
structure Call where
  func : Address
  ret : Guarded
deriving DecidableEq, Repr

/-- Where a call comes from. -/
inductive CallOrigin where
  /-- The return address lies in the main executable. -/
  | application
  /-- The return address lies in another module, which starts here. -/
  | library (start : Address)
  /-- The return address lies in no known module. -/
  | unknown (ret : Address)
  /-- There is no usable return address. -/
  | ambiguous
deriving DecidableEq, Repr

namespace Recorder

/-- Judges a call by its return address; a null return address says nothing. -/
def origin (recorder : Recorder) (engine : Engine) (call : Call) : CallOrigin :=
  match call.ret with
  | .error _ => .ambiguous
  | .ok ret =>
    if ret = 0 then .ambiguous
    else
      match engine.lookupModule ret with
      | none => .unknown ret
      | some m => if some m.start = recorder.exeStart then .application else .library m.start

/-- A call comes from the application if it has a return address, not null, in a module that starts
where the main executable does. -/
theorem origin_eq_application_iff {recorder : Recorder} {engine : Engine} {call : Call} :
    recorder.origin engine call = .application ↔
      ∃ ret m, call.ret = .ok ret ∧ ret ≠ 0 ∧ engine.lookupModule ret = some m ∧
        some m.start = recorder.exeStart := by
  unfold origin
  cases hret : call.ret with
  | error fault => simp
  | ok ret =>
    by_cases hnull : ret = 0
    · simp [hnull]
    · cases hlookup : engine.lookupModule ret with
      | none => simp [hnull, hlookup]
      | some m =>
        by_cases hstart : some m.start = recorder.exeStart
        · simp [hnull, hlookup, hstart]
        · simp [hnull, hlookup, hstart]

/-- The line for a call of `symbol`, if the call is recorded. -/
def line? (recorder : Recorder) (engine : Engine) (call : Call) (symbol : String) :
    Option String :=
  if recorder.onlyFromApp ∧ recorder.origin engine call ≠ .application then none
  else
    let module := ((engine.lookupModule call.func).map Module.name).getD ""
    some (TraceLine.format module symbol)

end Recorder

namespace Run

/-- A hook runs: a recorder writes its line, if it has one, and of a foreign hook it is only seen
that it ran. -/
def runHook (engine : Engine) (call : Call) (run : Run) (registration : Registration) : Run :=
  match registration.hook with
  | .recorder own =>
    match own.line? engine call registration.data with
    | none => run
    | some text => run.enter (.line text)
  | .foreign id => run.enter (.ran id registration.data)

/-- A function is called: the hooks at its address run.  The answer is their number. -/
def call (engine : Engine) (call : Call) (run : Run) : Nat × Run :=
  let hooks := Registrations.hooksAt run.registrations call.func
  (hooks.length, hooks.foldl (runHook engine call) run)

end Run

end CallTrace
