import CallTrace.Address

/-!
# Failures

The ways in which a request to the engine fails, each with its text: a guarded operation that
faults, a wrap or unwrap request that is refused, and such a refusal seen from the module and the
symbol that asked for it.
-/

namespace CallTrace

/-- A fault caught by one of the engine's guarded operations. -/
inductive Fault where
  | accessViolation (pc : Address)
  | notExecutable (pc : Address)
  | contextUnavailable (reason : String)
deriving DecidableEq, Repr

/-- The text of a fault. -/
def Fault.message : Fault → String
  | accessViolation pc => "access violation at " ++ pc.text
  | notExecutable pc => "code at " ++ pc.text ++ " cannot be executed in this context"
  | contextUnavailable reason => "call context unavailable: " ++ reason

/-- The answer of a guarded operation that yields an address. -/
abbrev Guarded := Except Fault Address

instance : DecidableEq Guarded
  | .ok a, .ok b => if h : a = b then isTrue (h ▸ rfl) else isFalse (by simp [h])
  | .error a, .error b => if h : a = b then isTrue (h ▸ rfl) else isFalse (by simp [h])
  | .ok _, .error _ => isFalse (by simp)
  | .error _, .ok _ => isFalse (by simp)

/-- Why a wrap or unwrap request is refused. -/
inductive WrapError where
  | alreadyWrapped (pc : Address)
  | notWrapped (pc : Address)
  | rejected (pc : Address) (reason : String)
deriving DecidableEq, Repr

/-- The text of a refusal. -/
def WrapError.message : WrapError → String
  | alreadyWrapped pc => pc.text ++ " is already wrapped by this hook"
  | notWrapped pc => pc.text ++ " is not wrapped by this hook"
  | rejected pc reason => "engine rejected request for " ++ pc.text ++ ": " ++ reason

/-- A refused request, with the module and the symbol that it was made for. -/
inductive InterceptError where
  | wrapFailed (module symbol : String) (cause : WrapError)
  | unwrapFailed (module symbol : String) (cause : WrapError)
deriving DecidableEq, Repr

/-- The text of a refused request. -/
def InterceptError.message : InterceptError → String
  | wrapFailed module symbol cause =>
    "wrap request failed for " ++ module ++ "!" ++ symbol ++ ": " ++ cause.message
  | unwrapFailed module symbol cause =>
    "unwrap request failed for " ++ module ++ "!" ++ symbol ++ ": " ++ cause.message

end CallTrace
