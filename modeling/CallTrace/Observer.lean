import CallTrace.Hook
import CallTrace.Module

/-!
# Observers

The engine reports what happens to the process and its modules to those who subscribed.  A
session subscribes with its interception, the rules by which it wraps the exports of modules.
-/

namespace CallTrace

/-- The token of a subscription.  Tokens are handed out in ascending order from zero. -/
abbrev SubscriptionId := Nat

/-- What the engine reports. -/
inductive Lifecycle where
  /-- A module is there; the flag tells whether it was there before the subscription. -/
  | loaded (m : Module) (already : Bool)
  /-- A module is about to go. -/
  | unloaded (m : Module)
  /-- The process has forked, and this is the child. -/
  | forked
  /-- The process is about to exit. -/
  | exiting
deriving DecidableEq, Repr

/-- What a session does when the engine refuses a request. -/
inductive ConsistencyChecks where
  /-- Stop at the first refusal and report it, after undoing a load that is half done. -/
  | abort
  /-- Tell about the refusal and go on with the other exports. -/
  | ignore
deriving DecidableEq, Repr

/-- Refusals count as serious unless the session is told otherwise. -/
def ConsistencyChecks.standard : ConsistencyChecks := abort

/-- What happens with a reported refusal. -/
inductive FailurePolicy where
  /-- It is handed to whoever owns the session. -/
  | report
  /-- It is told and the process aborts. -/
  | abort
deriving DecidableEq, Repr

/-- The rules by which a session wraps the exports of modules. -/
structure Interception where
  recorder : Recorder
  checks : ConsistencyChecks
deriving DecidableEq, Repr

/-- Who receives the engine's reports. -/
inductive Observer where
  /-- A session. -/
  | session (interception : Interception) (policy : FailurePolicy)
  /-- Somebody else, who only looks on. -/
  | watcher
deriving DecidableEq, Repr

end CallTrace
