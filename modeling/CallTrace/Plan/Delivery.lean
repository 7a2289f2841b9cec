import CallTrace.FileTree
import CallTrace.Text.ByteOrder

/-!
# Delivering a plan

A rendered plan is handed to a writer piece by piece.  The writer accepts some bytes at a time or
fails; an interrupted write is tried again, a write that accepts nothing is a failure, and a
complete text is flushed once.  A reader that went away is no error: output into a closed pipe
counts as delivered.  Other failures are all dealt with alike, so it is left open of which kinds
they can be.
-/

namespace CallTrace

/-- How a writer fails.  Some kinds of failures have a name here, with a text that goes with the
name; `Further` are the kinds that a writer may know besides, of which there are none unless they
are given. -/
inductive WriteError (Further : Type := Empty) where
  | brokenPipe
  | interrupted
  | wouldBlock
  | permissionDenied
  | other
  /-- The writer accepted nothing although there was something to write. -/
  | writeZero
  /-- A failure of another kind, with a text of its own. -/
  | further (kind : Further) (text : String)
deriving DecidableEq, Repr

/-- The text of a failure. -/
def WriteError.message {Further : Type} : WriteError Further → String
  | brokenPipe => "broken pipe"
  | interrupted => "operation interrupted"
  | wouldBlock => "operation would block"
  | permissionDenied => "permission denied"
  | other => "other error"
  | writeZero => "failed to write whole buffer"
  | further _ text => text

/-- Whether a reader went away. -/
def WriteError.isBrokenPipe {Further : Type} : WriteError Further → Bool
  | brokenPipe => true
  | _ => false

/-- What a writer does with one attempt to write. -/
inductive WriteResponse (Further : Type := Empty) where
  /-- It takes at most so many bytes. -/
  | accepts (limit : Nat)
  | fails (cause : WriteError Further)
deriving DecidableEq, Repr

/-- A writer: its responses to attempts to write, behind which it accepts everything, and what
becomes of a flush. -/
structure Writer (Further : Type := Empty) where
  responses : List (WriteResponse Further)
  flushFailure : Option (WriteError Further)
deriving DecidableEq, Repr

/-- What has become of a text given to a writer. -/
structure Delivery (Further : Type := Empty) where
  /-- The bytes that the writer has accepted. -/
  accepted : List UInt8
  /-- How often writing was attempted. -/
  attempts : Nat
  /-- How often the writer was flushed. -/
  flushes : Nat
  /-- The failure that ended the delivery, if one did. -/
  failure : Option (WriteError Further)
deriving DecidableEq, Repr

namespace Delivery

variable {Further : Type}

/-- One more attempt, in which the writer took the bytes `taken`, came before. -/
def after (taken : List UInt8) (delivery : Delivery Further) : Delivery Further :=
  { delivery with accepted := taken ++ delivery.accepted, attempts := delivery.attempts + 1 }

/-- Writes all of `rest`, without a flush. -/
def writeAll : List (WriteResponse Further) → (rest : List UInt8) → Delivery Further
  | _, [] => ⟨[], 0, 0, none⟩
  | [], rest => ⟨rest, 1, 0, none⟩
  | .fails .interrupted :: more, rest => (writeAll more rest).after []
  | .fails cause :: _, _ => ⟨[], 1, 0, some cause⟩
  | .accepts 0 :: _, _ => ⟨[], 1, 0, some .writeZero⟩
  | .accepts limit :: more, rest => (writeAll more (rest.drop limit)).after (rest.take limit)

/-- Writes all of `text`, and flushes the writer if that succeeds. -/
def writeAndFlush (writer : Writer Further) (text : List UInt8) : Delivery Further :=
  let written := writeAll writer.responses text
  match written.failure with
  | some _ => written
  | none => { written with flushes := 1, failure := writer.flushFailure }

/-- Delivers a rendered plan; a closed pipe is no failure. -/
def ofText (writer : Writer Further) (text : String) : Delivery Further :=
  let delivery := writeAndFlush writer (Text.bytes text)
  { delivery with failure := delivery.failure.filter (! ·.isBrokenPipe) }

end Delivery

end CallTrace
