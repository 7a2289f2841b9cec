import CallTrace.Hook
import CallTrace.Text.ByteOrder
import CallTrace.TraceLine

/-!
# Plans

A plan tells what a session has wrapped in a process: its registrations by address, and how many
of them each module has.  As text it has one line per registration, `module!symbol @0x7f00`.
-/

namespace CallTrace

/-- A registration as the plan shows it. -/
structure PlanRow where
  pc : Address
  hook : HookId
  /-- The name of the module at the address; empty if there is none. -/
  module : String
  symbol : String
deriving DecidableEq, Repr

/-- What a session has wrapped in a process. -/
structure Plan where
  pid : Int
  mainModule : Option String
  onlyFromApp : Bool
  rows : List PlanRow
deriving DecidableEq, Repr

namespace PlanRow

/-- What the row's function is called in the trace. -/
def label (row : PlanRow) : String := TraceLine.label row.module row.symbol

/-- The line of a row: the symbol and its address, behind the module if there is one. -/
def text (row : PlanRow) : String :=
  if row.module = "" then row.symbol ++ " @" ++ row.pc.text ++ "\n"
  else row.module ++ "!" ++ row.symbol ++ " @" ++ row.pc.text ++ "\n"

/-- A plan calls a function what the trace calls it. -/
theorem text_eq (row : PlanRow) : row.text = row.label ++ " @" ++ row.pc.text ++ "\n" := by
  unfold text label TraceLine.label
  split <;> rfl

end PlanRow

namespace Plan

/-- The number of registrations. -/
def total (plan : Plan) : Nat := plan.rows.length

/-- Counts one more registration for the module of a row. -/
def countRow (counts : Text.ByteOrderMap Nat) (row : PlanRow) : Text.ByteOrderMap Nat :=
  counts.insert row.module (counts.getD row.module 0 + 1)

/-- The number of registrations of each module that has any. -/
def perModule (plan : Plan) : Text.ByteOrderMap Nat := plan.rows.foldl countRow ∅

/-- The plan as text. -/
def text (plan : Plan) : String := String.join (plan.rows.map PlanRow.text)

end Plan

end CallTrace
