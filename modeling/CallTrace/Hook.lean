import CallTrace.Address

/-!
# Hooks

A hook is what the engine runs right before a wrapped function.  Hooks are told apart by an
identity, and an address may carry at most one hook of each identity.  The tracer has one hook,
the recorder; all recorders share one identity, also those of different sessions.
-/

namespace CallTrace

/-- The identity of a hook. -/
structure HookId where
  value : UInt64
deriving DecidableEq, Repr

/-- The written form of an identity. -/
def HookId.text (id : HookId) : String := "hook#" ++ String.ofList (Numeral.write 10 id.value.toNat)

/-- The identity of every recorder. -/
def recorderId : HookId := ⟨0x6c747263⟩

/-- The tracer's hook, which writes one line per call. -/
structure Recorder where
  /-- Whether calls that the main executable did not make are dropped. -/
  onlyFromApp : Bool
  /-- Where the main executable starts, if there is one. -/
  exeStart : Option Address
deriving DecidableEq, Repr

/-- A hook: a recorder, or one that somebody else installed. -/
inductive Hook where
  | recorder (recorder : Recorder)
  | foreign (id : HookId)
deriving DecidableEq, Repr

/-- The identity of a hook. -/
def Hook.id : Hook → HookId
  | recorder _ => recorderId
  | foreign id => id

end CallTrace
