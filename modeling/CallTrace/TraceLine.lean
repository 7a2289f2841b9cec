/-!
# Trace lines

The trace is a sequence of lines, one per recorded call.  A line names the function that was
called behind a fixed mark, and the module before the function when the module has a name.
-/

namespace CallTrace.TraceLine

/-- The mark at the front of every line of the trace. -/
def mark : String := "~~~~ "

/-- The name of a function: with its module, unless the module has no name. -/
def label (module symbol : String) : String :=
  if module = "" then symbol else module ++ "!" ++ symbol

/-- The line for a call, with its line feed. -/
def format (module symbol : String) : String := mark ++ label module symbol ++ "\n"

/-- A line as it is shown in a list of lines: without the line feeds at its end. -/
def shown (line : String) : String :=
  String.ofList (line.toList.reverse.dropWhile (· = '\n')).reverse

end CallTrace.TraceLine

namespace CallTrace

/-- Trace lines that are kept in memory, the latest first. -/
structure LineBuffer where
  newestFirst : List String
deriving DecidableEq, Repr

namespace LineBuffer

/-- No lines. -/
def empty : LineBuffer := ⟨[]⟩

/-- Keeps one more line. -/
def emit (buffer : LineBuffer) (line : String) : LineBuffer := ⟨line :: buffer.newestFirst⟩

/-- The lines in the order in which they came, as they are shown. -/
def lines (buffer : LineBuffer) : List String := buffer.newestFirst.reverse.map TraceLine.shown

end LineBuffer

end CallTrace
