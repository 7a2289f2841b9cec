import Std.Data.ExtTreeMap
import CallTrace.Hook

/-!
# Registrations

The table of what is wrapped.  A registration stands under an address and the identity of its
hook, and carries the hook itself with a text that the hook is given at every call.  The table
lists its rows by address, and by hook identity at one address.
-/

namespace CallTrace

/-- What a registration stands under. -/
structure Key where
  pc : Address
  hook : HookId
deriving DecidableEq, Repr

/-- Keys are ordered by address and then by hook identity. -/
def Key.cmp : Key → Key → Ordering := compareLex (compareOn (·.pc)) (compareOn (·.hook.value))

instance : Std.TransCmp Key.cmp :=
  inferInstanceAs (Std.TransCmp (compareLex (compareOn Key.pc) (compareOn (·.hook.value))))

instance : Std.LawfulEqCmp Key.cmp where
  eq_of_compare {a b} same := by
    obtain ⟨_, ⟨_⟩⟩ := a
    obtain ⟨_, ⟨_⟩⟩ := b
    simp_all [Key.cmp, compareLex, compareOn, Ordering.then_eq_eq]

/-- A hook in place, with the text it is given at every call. -/
structure Registration where
  hook : Hook
  data : String
deriving DecidableEq, Repr

/-- The table of registrations. -/
abbrev Registrations := Std.ExtTreeMap Key Registration Key.cmp

namespace Registrations

/-- The registrations at an address, by hook identity. -/
def hooksAt (table : Registrations) (pc : Address) : List Registration :=
  (table.toList.filter (·.1.pc = pc)).map (·.2)

end Registrations

end CallTrace
