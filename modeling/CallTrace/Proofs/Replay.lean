import CallTrace.Proofs.History
import CallTrace.Proofs.UnloadEffect

/-!
# Replays

A replay reports modules as loaded, one after the other, and later as going, the last one first.
This file says what a session makes of it under a steady engine that refuses nothing by itself.

A session deals with a failure by handing it to its owner or by aborting the process, and both show
in the journal (`Journal.alarms`).  A stretch of a run without any of them is `Run.Quiet`.  With
`ignore` every stretch is quiet; with `abort` it is quiet as long as each event succeeds
(`quiet_follow_cons_iff`).

After quiet loads an address has the name that the first module with it among its entries gives it
(`follow_loads_getElem?`).  The unloads are then quiet as well, and a table without recorders is
restored (`unloads_restore`).  The reasons differ: with `abort` no two modules share an entry, so
that each unload takes back one load; with `ignore` an entry may be shared, and the first unload of
a module that has it takes its recorder.
-/

namespace CallTrace

/-- Whether an entry of the journal shows how a session deals with a failure. -/
def Effect.isAlarm : Effect → Bool
  | .failure _ _ | .abort => true
  | .request _ | .notice _ | .line _ | .ran _ _ | .seen _ _ => false

/-- What sessions have done about failures. -/
def Journal.alarms (journal : Journal) : List Effect := journal.toList.filter Effect.isAlarm

namespace Run

/-- From `before` to `after` no session has dealt with a failure. -/
def Quiet (before after : Run) : Prop := after.journal.alarms = before.journal.alarms

lemma Confined.quiet {before after : Run} (h : Confined before after) : Quiet before after := by
  obtain ⟨work, hwork, hall⟩ := h.journal
  have hnone : work.filter Effect.isAlarm = [] := by
    rw [List.filter_eq_nil_iff]
    intro effect hmem
    have hwork := hall effect hmem
    cases effect <;> simp_all [Effect.isWork, Effect.isAlarm]
  rw [Quiet, Journal.alarms, Journal.alarms, hwork, List.filter_append, hnone, List.append_nil]

section Settle

variable {policy : FailurePolicy} {id : SubscriptionId} {run : Run}
  {outcome : Except InterceptError Nat × Run}

lemma settle_of_ok {n : Nat} (h : outcome.1 = .ok n) : settle policy id outcome = outcome.2 := by
  obtain ⟨answer, after⟩ := outcome
  obtain rfl : answer = .ok n := h
  rfl

lemma alarms_settle_error (policy : FailurePolicy) (id : SubscriptionId) (cause : InterceptError)
    (after : Run) :
    ∃ alarm, (settle policy id (.error cause, after)).journal.alarms =
      after.journal.alarms ++ [alarm] := by
  cases policy with
  | report =>
    exact ⟨.failure id cause, by simp [settle, fail, enter, Journal.alarms, Effect.isAlarm]⟩
  | abort => exact ⟨.abort, by simp [settle, fail, note, enter, Journal.alarms, Effect.isAlarm]⟩

lemma alarms_prefix_settle (hconfined : Confined run outcome.2) :
    run.journal.alarms <+: (settle policy id outcome).journal.alarms := by
  obtain ⟨answer, after⟩ := outcome
  rw [← show after.journal.alarms = run.journal.alarms from hconfined.quiet]
  cases answer with
  | ok n => exact List.prefix_rfl
  | error cause =>
    obtain ⟨alarm, halarm⟩ := alarms_settle_error policy id cause after
    exact ⟨[alarm], halarm.symm⟩

/-- Work is settled quietly if it has succeeded. -/
lemma quiet_settle_iff (hconfined : Confined run outcome.2) :
    Quiet run (settle policy id outcome) ↔ ∃ n, outcome.1 = .ok n := by
  obtain ⟨answer, after⟩ := outcome
  cases answer with
  | ok n => exact iff_of_true hconfined.quiet ⟨n, rfl⟩
  | error cause =>
    obtain ⟨alarm, halarm⟩ := alarms_settle_error policy id cause after
    rw [Quiet, halarm, show after.journal.alarms = run.journal.alarms from hconfined.quiet]
    simp

end Settle

end Run

namespace Interception

open ModuleEvent Run

variable {interception : Interception} {engine : Engine} {policy : FailurePolicy}
  {id : SubscriptionId} {run : Run}

/-! ## Quiet histories -/

lemma follow_cons (event : ModuleEvent) (events : List ModuleEvent) :
    interception.follow engine policy id (event :: events) run =
      interception.follow engine policy id events
        (settle policy id (interception.handle engine event run)) := by
  simp only [follow, receiveAll, List.map_cons, List.foldl_cons]
  cases event <;> rfl

lemma alarms_prefix_follow (events : List ModuleEvent) (run : Run) :
    run.journal.alarms <+:
      (interception.follow engine policy id events run).journal.alarms := by
  induction events generalizing run with
  | nil => exact List.prefix_rfl
  | cons event events ih =>
    rw [follow_cons]
    exact (alarms_prefix_settle (handle_confined event run)).trans (ih _)

/-- A history is quiet if its first event succeeds and the others are quiet after it. -/
lemma quiet_follow_cons_iff {event : ModuleEvent} {events : List ModuleEvent} :
    Quiet run (interception.follow engine policy id (event :: events) run) ↔
      (∃ n, (interception.handle engine event run).1 = .ok n) ∧
        Quiet (interception.handle engine event run).2
          (interception.follow engine policy id events
            (interception.handle engine event run).2) := by
  have hconfined : Confined run (interception.handle engine event run).2 :=
    handle_confined event run
  rw [follow_cons]
  constructor
  · intro hquiet
    -- Alarms are only added, so there is none at the first event if there is none in the end.
    have hfirst : Quiet run (settle policy id (interception.handle engine event run)) := by
      refine ((alarms_prefix_settle hconfined).eq_of_length_le ?_).symm
      rw [← hquiet]
      exact (alarms_prefix_follow events _).length_le
    obtain ⟨n, hok⟩ := (quiet_settle_iff hconfined).1 hfirst
    rw [settle_of_ok hok] at hquiet
    exact ⟨⟨n, hok⟩, hquiet.trans hconfined.quiet.symm⟩
  · rintro ⟨⟨n, hok⟩, hquiet⟩
    rw [settle_of_ok hok]
    exact hquiet.trans hconfined.quiet

lemma follow_cons_of_ok {event : ModuleEvent} {events : List ModuleEvent} {n : Nat}
    (h : (interception.handle engine event run).1 = .ok n) :
    interception.follow engine policy id (event :: events) run =
      interception.follow engine policy id events (interception.handle engine event run).2 := by
  rw [follow_cons, settle_of_ok h]

/-- With `ignore` every history is quiet. -/
lemma quiet_follow_of_ignore (steady : engine.Steady) (hignore : interception.checks = .ignore)
    (events : List ModuleEvent) :
    Quiet run (interception.follow engine policy id events run) :=
  (follow_confined steady hignore events).quiet

lemma follow_observers (events : List ModuleEvent) (run : Run) :
    (interception.follow engine policy id events run).observers = run.observers := by
  induction events generalizing run with
  | nil => rfl
  | cons event events ih =>
    obtain ⟨journal, hsettle⟩ :=
      exists_settle_eq policy id (interception.handle engine event run)
    rw [follow_cons, ih, hsettle]
    exact (handle_confined event run).observers

/-! ## Loads in a row -/

/-- After quiet loads an address has the name that the first module gives it, unless there was a
registration before. -/
lemma follow_loads_getElem? (steady : engine.Steady) (obliging : engine.Obliging)
    {modules : List Module}
    (hquiet : Quiet run (interception.follow engine policy id (modules.map (.load · true)) run))
    (key : Key) :
    (interception.follow engine policy id (modules.map (.load · true)) run).registrations[key]? =
      run.registrations[key]?.or (if key.hook = recorderId then
        modules.findSome? (interception.registrationFor engine · key.pc) else none) := by
  induction modules generalizing run with
  | nil => simp
  | cons m modules ih =>
    rw [List.map_cons, quiet_follow_cons_iff] at hquiet
    obtain ⟨⟨n, hok⟩, hrest⟩ := hquiet
    have hload : (interception.handle engine (.load m true) run).2.registrations[key]? = _ :=
      onLoad_getElem?_of_ok steady hok key
    rw [List.map_cons, follow_cons_of_ok hok, ih hrest, hload, Option.or_assoc]
    congr 1
    by_cases hhook : key.hook = recorderId
    · rw [if_pos hhook, if_pos hhook, if_pos ⟨hhook, obliging.wraps key.pc⟩, List.findSome?_cons]
      cases interception.registrationFor engine m key.pc <;> simp
    · simp [hhook]

/-! ## Unloads in a row -/

/-- After quiet unloads no recorder is left at an entry of one of the modules. -/
lemma follow_unloads_getElem? (steady : engine.Steady) (obliging : engine.Obliging)
    {modules : List Module}
    (hquiet : Quiet run (interception.follow engine policy id (modules.map .unload) run))
    (key : Key) :
    (interception.follow engine policy id (modules.map .unload) run).registrations[key]? =
      if key.hook = recorderId ∧ ∃ m ∈ modules, key.pc ∈ interception.entries engine m
      then none else run.registrations[key]? := by
  induction modules generalizing run with
  | nil => simp
  | cons m modules ih =>
    rw [List.map_cons, quiet_follow_cons_iff] at hquiet
    obtain ⟨⟨n, hok⟩, hrest⟩ := hquiet
    have hunload : (interception.handle engine (.unload m) run).2.registrations[key]? = _ :=
      onUnload_getElem?_of_ok steady hok key
    rw [List.map_cons, follow_cons_of_ok hok, ih hrest, hunload]
    have hunwraps := obliging.unwraps key.pc
    by_cases hhook : key.hook = recorderId <;>
      by_cases hentry : key.pc ∈ interception.entries engine m <;>
        simp [hhook, hentry, hunwraps]

/-! ## Unloads after loads -/

/-- With `abort` the unloads in reverse order take back one load after the other. -/
lemma unloads_restore_of_abort (steady : engine.Steady) (obliging : engine.Obliging)
    {modules : List Module} {loaded : Run} (habort : interception.checks = .abort)
    (hquiet : Quiet run (interception.follow engine policy id (modules.map (.load · true)) run))
    (hloaded : loaded.registrations =
      (interception.follow engine policy id (modules.map (.load · true)) run).registrations) :
    Quiet loaded (interception.follow engine policy id (modules.reverse.map .unload) loaded) ∧
      (interception.follow engine policy id
        (modules.reverse.map .unload) loaded).registrations = run.registrations := by
  induction modules generalizing run with
  | nil => exact ⟨rfl, hloaded⟩
  | cons m modules ih =>
    rw [List.map_cons, quiet_follow_cons_iff] at hquiet
    obtain ⟨⟨n, hok⟩, hrest⟩ := hquiet
    rw [List.map_cons, follow_cons_of_ok hok] at hloaded
    obtain ⟨hbefore, htable⟩ := ih hrest hloaded
    obtain ⟨hunload, hrestored⟩ := onUnload_of_onLoad steady habort obliging.unwraps hok htable
    rw [List.reverse_cons, List.map_append, List.map_singleton, follow_concat, handle,
      settle_of_ok hunload]
    exact ⟨(handle_confined (.unload m) _).quiet.trans hbefore, hrestored⟩

/-- After quiet loads into a table without recorders, the unloads in reverse order are quiet and
restore the table. -/
lemma unloads_restore (steady : engine.Steady) (obliging : engine.Obliging)
    {modules : List Module} {loaded : Run}
    (hloaded : loaded = interception.follow engine policy id (modules.map (.load · true)) run)
    (hnone : ∀ pc, Key.recorder pc ∉ run.registrations) (hquiet : Quiet run loaded) :
    Quiet loaded (interception.follow engine policy id (modules.reverse.map .unload) loaded) ∧
      (interception.follow engine policy id
        (modules.reverse.map .unload) loaded).registrations = run.registrations := by
  subst hloaded
  cases hchecks : interception.checks with
  | abort => exact unloads_restore_of_abort steady obliging hchecks hquiet rfl
  | ignore =>
    generalize hloaded :
      interception.follow engine policy id (modules.map (.load · true)) run = loaded
    have hunloads : Quiet loaded
        (interception.follow engine policy id (modules.reverse.map .unload) loaded) :=
      quiet_follow_of_ignore steady hchecks _
    refine ⟨hunloads, Std.ExtTreeMap.ext_getElem? fun key => ?_⟩
    rw [follow_unloads_getElem? steady obliging hunloads, ← hloaded,
      follow_loads_getElem? steady obliging hquiet]
    by_cases hhook : key.hook = recorderId
    · have habsent : run.registrations[key]? = none := by
        rw [← Registrations.not_mem_iff, ← Key.recorder_pc hhook]
        exact hnone key.pc
      -- What the loads have put under the key is at an entry of some module, and so it is gone.
      rw [habsent, Option.none_or, if_pos hhook, ite_eq_left_iff]
      intro hkept
      rw [List.findSome?_eq_none_iff]
      intro m hm
      exact registrationFor_eq_none fun hentry =>
        hkept ⟨hhook, m, List.mem_reverse.2 hm, hentry⟩
    · simp [hhook]

end Interception

end CallTrace
