import CallTrace.Engine

/-!
# Scenarios

An engine given by data, for rehearsing a session without a process: modules with their export
tables, the answers of resolvers call by call, and the requests that are refused.
-/

namespace CallTrace

/-- An engine given by data. -/
structure Scenario where
  /-- The modules, each with its export table. -/
  modules : List (Module × List Export)
  /-- The place of the main module in the list. -/
  main : Option Nat
  /-- What each resolver answers at its first call, its second call, and so on; the last answer
  holds from then on. -/
  resolvers : List (Address × List Guarded)
  /-- Addresses that are not wrapped, with reasons. -/
  wrapRefusals : List (Address × String)
  /-- Addresses that are not unwrapped, with reasons. -/
  unwrapRefusals : List (Address × String)
  /-- What a new observer is told at once. -/
  greeting : List Lifecycle
deriving Repr

namespace Scenario

/-- The module at an address; of several the first one counts. -/
def lookupModule (scenario : Scenario) (pc : Address) : Option Module :=
  (scenario.modules.find? (·.1.contains pc)).map (·.1)

/-- The export table behind a module's handle; of several the first one counts. -/
def exports (scenario : Scenario) (m : Module) : List Export :=
  ((scenario.modules.find? (·.1.handle = m.handle)).map (·.2)).getD []

/-- The answer of a resolver, given the calls before.  An address without answers is no code. -/
def resolver (scenario : Scenario) (earlier : List Address) (pc : Address) : Guarded :=
  let answers := ((scenario.resolvers.find? (·.1 = pc)).map (·.2)).getD []
  match answers[earlier.count pc]?.or answers.getLast? with
  | some answer => answer
  | none => .error (.accessViolation pc)

/-- How often each resolver has answered in a series of calls, in the order of addresses.  An
address without answers has never answered. -/
def answerCounts (scenario : Scenario) (calls : List Address) : List (Address × Nat) :=
  (scenario.resolvers.map fun (pc, answers) =>
    (pc, if answers.isEmpty then 0 else calls.count pc)).mergeSort (·.1 ≤ ·.1)

/-- The reason that a list of refusals gives for an address. -/
def reason? (refusals : List (Address × String)) (pc : Address) : Option String :=
  (refusals.find? (·.1 = pc)).map (·.2)

/-- The scenario as an engine. -/
def engine (scenario : Scenario) : Engine where
  mainModule := (scenario.main.bind (scenario.modules[·]?)).map (·.1)
  lookupModule := scenario.lookupModule
  exports m := .ok (scenario.exports m)
  resolver := scenario.resolver
  refusesWrap := reason? scenario.wrapRefusals
  refusesUnwrap := reason? scenario.unwrapRefusals
  greeting := scenario.greeting

end Scenario

end CallTrace
