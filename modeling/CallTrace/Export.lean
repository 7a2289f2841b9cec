import CallTrace.Address

/-!
# Exports

A module's export table lists names with addresses.  What the address of an entry means depends
on the entry's kind: only code can be called, and indirect code has to be resolved first.
-/

namespace CallTrace

/-- What the address of an export means. -/
inductive ExportKind where
  /-- The address is the entry of a function. -/
  | code
  /-- The address is a resolver, a function without arguments that answers the entry. -/
  | indirect
  /-- The address is data. -/
  | data
  /-- The table marks the address as code and as indirect code; the first mark counts. -/
  | both
deriving DecidableEq, Repr

/-- One entry of an export table. -/
structure Export where
  name : String
  addr : Address
  kind : ExportKind
deriving DecidableEq, Repr

/-- An export whose entry address is known. -/
structure ResolvedExport where
  name : String
  entry : Address
  /-- The resolver that answered the entry, if the export was indirect. -/
  resolver : Option Address
deriving DecidableEq, Repr

end CallTrace
