import CallTrace.Export
import CallTrace.Journal
import CallTrace.Registrations

/-!
# The engine

An instrumentation engine is described by what it answers: the main module, the module at an
address, export tables, resolvers (whose answers may depend on the calls before), and the
addresses that it refuses to wrap or to unwrap.  What changes while a process is traced is the
`Run`: the table of registrations, the resolver calls so far, the observers, and the journal.

Apart from the addresses it refuses by itself, an engine refuses to wrap a key that is present
and to unwrap one that is absent.  A refused request changes nothing but the journal.
-/

namespace CallTrace

/-- What an engine answers. -/
structure Engine where
  /-- The main executable, if the engine knows it. -/
  mainModule : Option Module
  /-- The module that an address belongs to. -/
  lookupModule : Address → Option Module
  /-- The export table of a module, in order, or why it cannot be read. -/
  exports : Module → Except ImageError (List Export)
  /-- What a resolver answers, given the resolvers called before, the latest first. -/
  resolver : List Address → Address → Guarded
  /-- Why the engine refuses to wrap an address, if it does. -/
  refusesWrap : Address → Option String
  /-- Why the engine refuses to unwrap an address, if it does. -/
  refusesUnwrap : Address → Option String
  /-- What a new observer is told before its subscription is answered. -/
  greeting : List Lifecycle

/-- How wrapping works for the whole process. -/
structure WrapFlags where
  /-- There is one wrapper per function, and none changes while it runs. -/
  noFrills : Bool
  /-- Hooks do without the registers of the application. -/
  fastCleancalls : Bool
deriving DecidableEq, Repr

/-- What changes while a process is traced. -/
structure Run where
  registrations : Registrations
  /-- The resolvers called so far, the latest first. -/
  resolverCalls : List Address
  /-- The observers by ascending subscription. -/
  observers : List (SubscriptionId × Observer)
  nextSubscription : SubscriptionId
  /-- The subscriptions that sessions hold, which are those they have not given back. -/
  held : List SubscriptionId
  flags : WrapFlags
  journal : Journal

namespace Run

/-- Nothing has happened yet. -/
def start : Run where
  registrations := ∅
  resolverCalls := []
  observers := []
  nextSubscription := 0
  held := []
  flags := ⟨false, false⟩
  journal := #[]

/-- Enters an effect into the journal. -/
def enter (run : Run) (effect : Effect) : Run := { run with journal := run.journal.push effect }

/-- Enters a notice into the journal. -/
def note (run : Run) (notice : Notice) : Run := run.enter (.notice notice)

/-- Drops an observer; the answer tells whether there was one. -/
def unsubscribe (id : SubscriptionId) (run : Run) : Bool × Run :=
  let known := run.observers.any (·.1 = id)
  (known, { run with observers := run.observers.filter (·.1 ≠ id) }.enter
    (.request (.unsubscribe id known)))

/-- Gives a subscription back, if a session holds it. -/
def release (id : SubscriptionId) (run : Run) : Run :=
  if id ∈ run.held then ({ run with held := run.held.filter (· ≠ id) }.unsubscribe id).2 else run

end Run

namespace Engine

/-- The export table of a module; one that cannot be read is noted and counts as empty. -/
def listExports (engine : Engine) (m : Module) (run : Run) : List Export × Run :=
  match engine.exports m with
  | .ok table => (table, run)
  | .error cause => ([], run.note (.exportsUnreadable m.name cause))

/-- Calls a resolver. -/
def resolve (engine : Engine) (resolver : Address) (run : Run) : Guarded × Run :=
  let answer := engine.resolver run.resolverCalls resolver
  (answer, { run with resolverCalls := resolver :: run.resolverCalls }.enter
    (.request (.resolve resolver answer)))

/-- Why a wrap request would be refused now. -/
def wrapRefusal? (engine : Engine) (run : Run) (key : Key) : Option WrapError :=
  match engine.refusesWrap key.pc with
  | some reason => some (.rejected key.pc reason)
  | none => if key ∈ run.registrations then some (.alreadyWrapped key.pc) else none

/-- Requests a registration; the answer is a refusal or nothing. -/
def wrap (engine : Engine) (pc : Address) (hook : Hook) (data : String) (run : Run) :
    Option WrapError × Run :=
  let key : Key := ⟨pc, hook.id⟩
  match engine.wrapRefusal? run key with
  | some refusal => (some refusal, run.enter (.request (.wrap pc hook.id data (some refusal))))
  | none =>
    (none, { run with registrations := run.registrations.insert key ⟨hook, data⟩ }.enter
      (.request (.wrap pc hook.id data none)))

/-- Why an unwrap request would be refused now. -/
def unwrapRefusal? (engine : Engine) (run : Run) (key : Key) : Option WrapError :=
  match engine.refusesUnwrap key.pc with
  | some reason => some (.rejected key.pc reason)
  | none => if key ∈ run.registrations then none else some (.notWrapped key.pc)

/-- Requests that a registration is removed; the answer is a refusal or nothing. -/
def unwrap (engine : Engine) (pc : Address) (hook : HookId) (run : Run) :
    Option WrapError × Run :=
  let key : Key := ⟨pc, hook⟩
  match engine.unwrapRefusal? run key with
  | some refusal => (some refusal, run.enter (.request (.unwrap pc hook (some refusal))))
  | none =>
    (none, { run with registrations := run.registrations.erase key }.enter
      (.request (.unwrap pc hook none)))

end Engine

end CallTrace
