import CallTrace.Notice.Filter
import CallTrace.Observer
import CallTrace.Text.Terminal
import CallTrace.TraceLine

/-!
# The journal

Everything that a traced run shows to the outside, in the order in which it happens: the
requests to the engine with their answers, the notices, the lines of the trace, the runs of hooks
that are not the tracer's, the reported failures, what other observers see, and an abort of the
process.  The views of the journal pick out one kind each, except that `Journal.lines` shows the
trace together with the foreign hooks between its lines.
-/

namespace CallTrace

/-- A request to the engine, with its answer; a wrap or unwrap request is answered with a refusal
or with nothing. -/
inductive Request where
  | resolve (resolver : Address) (answer : Guarded)
  | wrap (pc : Address) (hook : HookId) (data : String) (refusal : Option WrapError)
  | unwrap (pc : Address) (hook : HookId) (refusal : Option WrapError)
  | unsubscribe (subscription : SubscriptionId) (known : Bool)
deriving DecidableEq, Repr

/-- One entry of the journal. -/
inductive Effect where
  | request (request : Request)
  | notice (notice : Notice)
  /-- A recorder has written a line of the trace. -/
  | line (text : String)
  /-- Somebody else's hook has run with its data. -/
  | ran (hook : HookId) (data : String)
  | failure (subscription : SubscriptionId) (cause : InterceptError)
  | seen (subscription : SubscriptionId) (event : Lifecycle)
  | abort
deriving DecidableEq, Repr

/-- The effects of a run so far, the oldest first. -/
abbrev Journal := Array Effect

namespace Journal

/-- The requests to the engine. -/
def requests (journal : Journal) : List Request :=
  journal.toList.filterMap fun | .request r => some r | _ => none

/-- The notices. -/
def notices (journal : Journal) : List Notice :=
  journal.toList.filterMap fun | .notice n => some n | _ => none

/-- The lines of the trace, which recorders write. -/
def trace (journal : Journal) : List String :=
  journal.toList.filterMap fun | .line text => some text | _ => none

/-- What all hooks show, the foreign ones by their identity and their data. -/
def lines (journal : Journal) : List String :=
  journal.toList.filterMap fun
    | .line text => some text
    | .ran hook data => some (hook.text ++ " " ++ data)
    | _ => none

/-- The reported failures, each with the subscription of its session. -/
def failures (journal : Journal) : List (SubscriptionId × InterceptError) :=
  journal.toList.filterMap fun | .failure id cause => some (id, cause) | _ => none

/-- What one of the other observers has seen. -/
def seenBy (journal : Journal) (id : SubscriptionId) : List Lifecycle :=
  journal.toList.filterMap fun
    | .seen other event => if other = id then some event else none
    | _ => none

/-- The entries behind the first `n`. -/
def since (journal : Journal) (n : Nat) : Journal := (journal.toList.drop n).toArray

/-- Whether the process has aborted. -/
def aborted (journal : Journal) : Bool := journal.contains .abort

/-- The part of an entry that is written to the error stream under a filter. -/
def written (filter : NoticeFilter) : Effect → String
  | .notice n => if filter.admits n then Text.coded n.display ++ "\n" else ""
  | .line text => text
  | _ => ""

/-- The error stream of a process: lines of the trace and admitted notices as they come, up to
an abort. -/
def errorStream (journal : Journal) (filter : NoticeFilter) : String :=
  String.join ((journal.toList.takeWhile (· ≠ .abort)).map (written filter))

end Journal

end CallTrace
