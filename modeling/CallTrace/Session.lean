import CallTrace.Interception
import CallTrace.Options
import CallTrace.Recorder

/-!
# Sessions

A session is attached to an engine with its options.  Attaching remembers where the main
executable starts, sets the flags of wrapping, and subscribes to the engine's reports.  The
session holds its subscription until it is detached or the process exits, whichever comes first,
and gives it back once.
-/

namespace CallTrace

namespace Run

/-- Deals with a refusal that an interception reports. -/
def fail (policy : FailurePolicy) (id : SubscriptionId) (cause : InterceptError) (run : Run) :
    Run :=
  match policy with
  | .report => run.enter (.failure id cause)
  | .abort => (run.note (.fatal cause)).enter .abort

/-- Reports a failed outcome. -/
def settle (policy : FailurePolicy) (id : SubscriptionId) :
    Except InterceptError Nat × Run → Run
  | (.ok _, run) => run
  | (.error cause, run) => run.fail policy id cause

end Run

/-- An observer receives a report under its subscription. -/
def Observer.receive (engine : Engine) (id : SubscriptionId) (event : Lifecycle) (run : Run) :
    Observer → Run
  | .watcher => run.enter (.seen id event)
  | .session interception policy =>
    match event with
    | .loaded m _ => Run.settle policy id (interception.onLoad engine m run)
    | .unloaded m => Run.settle policy id (interception.onUnload engine m run)
    | .forked => run.note .forked
    | .exiting => (run.note .exiting).release id

namespace Run

/-- One observer receives reports in order. -/
def receiveAll (engine : Engine) (events : List Lifecycle) (run : Run)
    (subscriber : SubscriptionId × Observer) : Run :=
  events.foldl (fun run event => subscriber.2.receive engine subscriber.1 event run) run

/-- The engine reports events to those who observe it now, to one after the other. -/
def deliver (engine : Engine) (events : List Lifecycle) (run : Run) : Run :=
  run.observers.foldl (receiveAll engine events) run

/-- Adds an observer, which receives the engine's greeting before the subscription is answered. -/
def subscribe (engine : Engine) (observer : Observer) (run : Run) : SubscriptionId × Run :=
  let id := run.nextSubscription
  let run := { run with
    observers := run.observers ++ [(id, observer)], nextSubscription := id + 1 }
  (id, run.receiveAll engine engine.greeting (id, observer))

end Run

/-- An attached session. -/
structure Session where
  options : Options
  /-- Where the main executable started when the session was attached. -/
  exeStart : Option Address
  subscription : SubscriptionId
deriving DecidableEq, Repr

namespace Session

/-- Attaches a session. -/
def attach (engine : Engine) (options : Options) (checks : ConsistencyChecks)
    (policy : FailurePolicy) (run : Run) : Session × Run :=
  let exeStart := engine.mainModule.map (·.start)
  let run := run.note (exeStart.elim .noMainExecutable .mainExecutable)
  let recorder : Recorder := ⟨options.onlyFromApp, exeStart⟩
  let (id, run) := { run with flags := ⟨true, true⟩ }.subscribe engine
    (.session ⟨recorder, checks⟩ policy)
  let run := { run with held := run.held ++ [id] }
  (⟨options, exeStart, id⟩, run.note (.attached options.onlyFromApp options.verbose))

/-- Whether the session still holds its subscription. -/
def isAttached (session : Session) (run : Run) : Bool := session.subscription ∈ run.held

/-- Ends a session; one whose process has exited has nothing left to give back. -/
def detach (session : Session) (run : Run) : Run :=
  (run.release session.subscription).note .detached

end Session

end CallTrace
