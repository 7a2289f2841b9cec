import Mathlib.Data.List.Infix
import CallTrace.Proofs.Residency

/-!
# Modules that share an entry

An indirect export may resolve into another library, and then two modules have an entry in common.
The table has one key for it: the module that loads first installs the registration, and the request
of the second is refused.  An unload does not remember what its load has installed but enumerates
the exports again, so when the second module goes it takes the registration of the first
(`not_unloadsSpareOthers`), whether failures are ignored or reported.

Which registrations of other modules an unload takes is said exactly: those at its own entries, as
far as it comes to them (`installed_taken_iff`).
-/

namespace CallTrace

open ModuleEvent

/-! ## What an unload comes to -/

namespace Interception

variable {interception : Interception} {engine : Engine} {m : Module}

/-- An unload of a module unwraps the recorder at an address: the address is an entry of the module,
its recorder can be unwrapped, and under `abort` so can the recorder at every entry that the export
table has in front of it. -/
structure Unwraps (interception : Interception) (engine : Engine) (m : Module)
    (table : Registrations) (pc : Address) : Prop where
  entry : pc ∈ interception.entries engine m
  unwrappable : engine.Unwrappable table pc
  complete : interception.checks = .abort →
    ∀ symbol ∈ (engine.tableOf m).takeWhile (engine.entryOf? · ≠ some pc),
      ∀ other, engine.entryOf? symbol = some other → engine.Unwrappable table other

lemma mem_clearedBy (steady : engine.Steady) {run : Run} {pc : Address} :
    pc ∈ (interception.clearedBy engine m run).map (·.entry) ↔
      interception.Unwraps engine m run.registrations pc := by
  by_cases hmain : interception.isMainExecutable m
  · have hnot : ¬ interception.Unwraps engine m run.registrations pc := by
      intro h
      simpa [entries, hmain] using h.entry
    simpa [clearedBy, hmain] using hnot
  · rw [clearedBy, if_neg hmain, mem_map_cleared, mem_map_enumerate steady hmain]
    constructor
    · rintro ⟨hentry, hunwrap, hfront⟩
      refine ⟨hentry, hunwrap, fun habort symbol hsymbol other hother => ?_⟩
      exact hfront habort other
        ((steady.mem_takeWhile_enumerate m run pc other).2 ⟨symbol, hsymbol, hother⟩)
    · rintro ⟨hentry, hunwrap, hfront⟩
      refine ⟨hentry, hunwrap, fun habort other hmem => ?_⟩
      obtain ⟨symbol, hsymbol, hother⟩ := (steady.mem_takeWhile_enumerate m run pc other).1 hmem
      exact hfront habort symbol hsymbol other hother

end Interception

/-! ## What a load has installed -/

/-- The last load of a module has installed a registration: it was not there before, the load put it
there, the module has not gone since, and the registration has not either. -/
def InstalledBy (interception : Interception) (engine : Engine) (policy : FailurePolicy)
    (id : SubscriptionId) (run : Run) (events : List ModuleEvent) (m : Module) (key : Key) : Prop :=
  ∃ before already since, events = before ++ .load m already :: since ∧ .unload m ∉ since ∧
    key ∉ (interception.follow engine policy id before run).registrations ∧
    ∀ done, done <+: since →
      key ∈ (interception.follow engine policy id (before ++ .load m already :: done)
        run).registrations

namespace InstalledBy

variable {interception : Interception} {engine : Engine} {policy : FailurePolicy}
  {id : SubscriptionId} {run : Run} {events : List ModuleEvent} {m : Module} {key : Key}

/-- What has been installed is there. -/
lemma mem (h : InstalledBy interception engine policy id run events m key) :
    key ∈ (interception.follow engine policy id events run).registrations := by
  obtain ⟨before, already, since, rfl, -, -, hpresent⟩ := h
  exact hpresent since (List.prefix_refl since)

/-- A load installs recorders at entries of its module. -/
lemma mem_entries (h : InstalledBy interception engine policy id run events m key)
    (steady : engine.Steady) :
    key.hook = recorderId ∧ key.pc ∈ interception.entries engine m := by
  obtain ⟨before, already, since, -, -, habsent, hpresent⟩ := h
  -- Right after the load; it can only have put there what its own symbols offer.
  have hafter := hpresent [] List.nil_prefix
  rw [Interception.follow_concat, Run.settle_registrations] at hafter
  by_contra hnot
  have helsewhere : key.hook ≠ recorderId ∨ key.pc ∉ interception.entries engine m := by
    rw [not_and_or] at hnot
    exact hnot
  rw [Registrations.mem_iff_exists, Interception.handle,
    Interception.onLoad_getElem?_of_not_mem steady helsewhere, ← Registrations.mem_iff_exists]
    at hafter
  exact habsent hafter

end InstalledBy

/-- **Registrations that an unload takes from another module.**  An unload takes a registration that
the load of any module has installed if and only if it unwraps the recorder there: if the address is
an entry of its own module as well, the engine does not refuse the request, and under `abort` no
request in front of it fails. -/
theorem installed_taken_iff (engine : Engine) (interception : Interception)
    (policy : FailurePolicy) (id : SubscriptionId) (run : Run) (events : List ModuleEvent)
    (m n : Module) (key : Key) (steady : engine.Steady)
    (hinstalled : InstalledBy interception engine policy id run events n key) :
    key.hook = recorderId ∧ key.pc ∈ interception.entries engine n ∧
      (key ∉ (interception.follow engine policy id (events ++ [.unload m]) run).registrations ↔
        interception.Unwraps engine m
          (interception.follow engine policy id events run).registrations key.pc) := by
  obtain ⟨hhook, hentry⟩ := hinstalled.mem_entries steady
  refine ⟨hhook, hentry, ?_⟩
  obtain ⟨registration, hregistration⟩ := (Registrations.mem_iff_exists _ _).1 hinstalled.mem
  rw [Registrations.not_mem_iff, Interception.follow_concat, Run.settle_registrations,
    Interception.handle, Interception.onUnload_getElem?, ← Interception.mem_clearedBy steady,
    hregistration]
  simp [hhook]

/-! ## A resolver into another library -/

namespace ResolvedElsewhere

def liba : Module := ⟨0x2000, 0x3000, some "liba.so", none, 0⟩
def libb : Module := ⟨0x3000, 0x4000, some "libb.so", none, 1⟩

/-- All exports of the second library resolve into the first. -/
def scenario : Scenario where
  modules := [(liba, [⟨"copy", 0x2100, .code⟩, ⟨"move", 0x2200, .code⟩]),
    (libb, [⟨"copy_fast", 0x3100, .indirect⟩, ⟨"move_fast", 0x3200, .indirect⟩])]
  main := none
  resolvers := [(0x3100, [.ok 0x2100]), (0x3200, [.ok 0x2200])]
  wrapRefusals := []
  unwrapRefusals := []
  greeting := []

def session (checks : ConsistencyChecks) : Interception := ⟨⟨false, none⟩, checks⟩

def history : List ModuleEvent := [.load liba false, .load libb false]

lemma scenario_steady : scenario.engine.Steady := Scenario.engine_steady (by decide)

/-- The first library has installed what is there when both have loaded. -/
lemma installed (checks : ConsistencyChecks) :
    InstalledBy (session checks) scenario.engine .report 0 .start history liba
      (Key.recorder 0x2200) := by
  have hpresent : ∀ done ∈ [.load libb false].inits, Key.recorder 0x2200 ∈
      ((session checks).follow scenario.engine .report 0 (.load liba false :: done)
        .start).registrations := by
    cases checks <;> decide +kernel
  refine ⟨[], false, [.load libb false], rfl, by decide, ?_, ?_⟩
  · simp [Run.start]
  · intro done hdone
    exact hpresent done ((List.mem_inits _ _).2 hdone)

end ResolvedElsewhere

open ResolvedElsewhere in
/-- The second library takes a registration of the first with it, although its own load has been
reported as failed. -/
theorem move_taken_by_libb :
    Key.recorder 0x2200 ∉ ((session .abort).follow scenario.engine .report 0
      (history ++ [.unload libb]) .start).registrations := by
  refine (installed_taken_iff scenario.engine (session .abort) .report 0 .start history libb liba
    _ scenario_steady (installed .abort)).2.2.2 ⟨?_, ?_, ?_⟩
  · decide +kernel
  · decide +kernel
  · intro _ symbol hsymbol other hother
    have hfront : ∀ symbol ∈ (scenario.engine.tableOf libb).takeWhile
        (scenario.engine.entryOf? · ≠ some 0x2200),
        scenario.engine.entryOf? symbol = some 0x2100 := by
      decide +kernel
    obtain rfl : 0x2100 = other :=
      Option.some.inj ((hfront symbol hsymbol).symm.trans hother)
    decide +kernel

/-- No unload removes what the load of another module has installed that is still loaded. -/
def UnloadsSpareOthers (checks : ConsistencyChecks) : Prop :=
  ∀ (engine : Engine) (recorder : Recorder) (id : SubscriptionId) (run : Run)
    (events : List ModuleEvent) (m n : Module) (key : Key),
    engine.Steady → Alternating (events ++ [.unload m]) → m ≠ n →
      InstalledBy ⟨recorder, checks⟩ engine .report id run events n key →
        key ∈ (Interception.follow ⟨recorder, checks⟩ engine .report id
          (events ++ [.unload m]) run).registrations

open ResolvedElsewhere in
/-- In neither mode do unloads spare what belongs to others. -/
theorem not_unloadsSpareOthers :
    ¬ UnloadsSpareOthers .abort ∧ ¬ UnloadsSpareOthers .ignore := by
  have hrefuted : ∀ checks, ¬ UnloadsSpareOthers checks := by
    intro checks hspare
    have hkept := hspare scenario.engine ⟨false, none⟩ 0 .start history libb liba
      (Key.recorder 0x2200) scenario_steady (by decide) (by decide) (installed checks)
    have htaken : Key.recorder 0x2200 ∉ ((session checks).follow scenario.engine .report 0
        (history ++ [.unload libb]) .start).registrations := by
      cases checks <;> decide +kernel
    exact htaken hkept
  exact ⟨hrefuted .abort, hrefuted .ignore⟩

end CallTrace
