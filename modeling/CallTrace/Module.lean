import CallTrace.Address

/-!
# Modules

A module is an executable or a shared library that is mapped into the traced process.
-/

namespace CallTrace

/-- A mapped module. -/
structure Module where
  /-- The lowest mapped address. -/
  start : Address
  /-- One past the highest mapped address. -/
  stop : Address
  /-- The name to display, if the engine knows one. -/
  preferredName : Option String
  /-- The backing file, if there is one. -/
  path : Option String
  /-- What the engine knows the module by when its exports are read. -/
  handle : Nat
deriving DecidableEq, Repr

namespace Module

/-- Whether an address lies in the module's range, which excludes its end. -/
def contains (m : Module) (pc : Address) : Bool := m.start ≤ pc && pc < m.stop

/-- The name to display; a module without one shows as the empty text. -/
def name (m : Module) : String := m.preferredName.getD ""

end Module

end CallTrace
