import CallTrace.Proofs.Residency
import CallTrace.Recorder

/-!
# Twin runs

Two sessions that differ in their recorders alone do the same work.  Which exports they wrap, which
requests are refused and which resolvers are called does not depend on what a recorder writes later
on, although the recorder itself is what a registration holds.

A table *carries* a recorder if it holds that recorder alone, and tables that carry two recorders
under the same symbols are twins (`Registrations.Twins`).  Runs are twins if their tables are, if
they have called the same resolvers, and if the same subscriptions belong to the two sessions
(`Run.Twins`).  Whatever happens to twin runs, they stay twins: one lemma for each piece of work,
then for reports, calls and attaching, whatever the engine answers.
-/

namespace CallTrace

/-! ## Twin tables -/

namespace Registrations

/-- All that a table holds is one recorder, at the addresses and under the symbols given. -/
def Carries (recorder : Recorder) (table : Registrations) (symbols : Address → Option String) :
    Prop :=
  ∀ key : Key, table[key]? = if key.hook = recorderId then
    (symbols key.pc).map fun symbol => ⟨.recorder recorder, symbol⟩ else none

/-- Two tables carry two recorders at the same addresses under the same symbols. -/
def Twins (recorder recorder' : Recorder) (table table' : Registrations) : Prop :=
  ∃ symbols, Carries recorder table symbols ∧ Carries recorder' table' symbols

variable {recorder recorder' : Recorder} {table table' : Registrations}
  {symbols : Address → Option String}

lemma carries_empty (recorder : Recorder) : Carries recorder ∅ fun _ => none := by
  intro key
  simp

lemma Carries.mem_iff (h : Carries recorder table symbols) (pc : Address) :
    Key.recorder pc ∈ table ↔ (symbols pc).isSome := by
  rw [Std.ExtTreeMap.mem_iff_isSome_getElem?, h, if_pos rfl, Option.isSome_map]

lemma Carries.mem_toList_iff (h : Carries recorder table symbols) {row : Key × Registration} :
    row ∈ table.toList ↔ row.1.hook = recorderId ∧
      ∃ symbol, symbols row.1.pc = some symbol ∧ row.2 = ⟨.recorder recorder, symbol⟩ := by
  obtain ⟨key, registration⟩ := row
  rw [Std.ExtTreeMap.mem_toList_iff_getElem?_eq_some, h]
  split <;> rename_i hhook
  · simp only [Option.map_eq_some_iff, hhook, true_and, @eq_comm _ registration]
  · simp [hhook]

lemma Carries.insert (h : Carries recorder table symbols) (pc : Address) (symbol : String) :
    Carries recorder (table.insert (Key.recorder pc) ⟨.recorder recorder, symbol⟩)
      fun other => if pc = other then some symbol else symbols other := by
  intro key
  rw [getElem?_insert, h]
  by_cases hhook : key.hook = recorderId
  · by_cases hpc : pc = key.pc
    · subst hpc
      simp [Key.recorder_pc hhook, hhook]
    · have hne : Key.recorder pc ≠ key := fun heq => hpc (heq ▸ rfl)
      simp [hne, hpc]
  · have hne : Key.recorder pc ≠ key := fun heq => hhook (heq ▸ rfl)
    simp [hne, hhook]

lemma Carries.erase (h : Carries recorder table symbols) (pc : Address) :
    Carries recorder (table.erase (Key.recorder pc))
      fun other => if pc = other then none else symbols other := by
  intro key
  rw [getElem?_erase, h]
  by_cases hhook : key.hook = recorderId
  · by_cases hpc : pc = key.pc
    · subst hpc
      simp [Key.recorder_pc hhook]
    · have hne : Key.recorder pc ≠ key := fun heq => hpc (heq ▸ rfl)
      simp [hne, hpc]
  · simp [hhook]

lemma Twins.insert (h : Twins recorder recorder' table table') (pc : Address) (symbol : String) :
    Twins recorder recorder' (table.insert (Key.recorder pc) ⟨.recorder recorder, symbol⟩)
      (table'.insert (Key.recorder pc) ⟨.recorder recorder', symbol⟩) := by
  obtain ⟨symbols, hcarries, hcarries'⟩ := h
  exact ⟨_, hcarries.insert pc symbol, hcarries'.insert pc symbol⟩

lemma Twins.erase (h : Twins recorder recorder' table table') (pc : Address) :
    Twins recorder recorder' (table.erase (Key.recorder pc)) (table'.erase (Key.recorder pc)) := by
  obtain ⟨symbols, hcarries, hcarries'⟩ := h
  exact ⟨_, hcarries.erase pc, hcarries'.erase pc⟩

lemma Twins.mem_iff (h : Twins recorder recorder' table table') (pc : Address) :
    Key.recorder pc ∈ table' ↔ Key.recorder pc ∈ table := by
  obtain ⟨symbols, hcarries, hcarries'⟩ := h
  rw [hcarries.mem_iff, hcarries'.mem_iff]

/-- Twin tables have the same keys with the same data. -/
lemma Twins.map_data (h : Twins recorder recorder' table table') :
    table'.map (fun _ registration => registration.data) =
      table.map fun _ registration => registration.data := by
  obtain ⟨symbols, hcarries, hcarries'⟩ := h
  refine Std.ExtTreeMap.ext_getElem? fun key => ?_
  rw [Std.ExtTreeMap.getElem?_map, Std.ExtTreeMap.getElem?_map, hcarries, hcarries']
  split
  · rw [Option.map_map, Option.map_map]
    rfl
  · rfl

end Registrations

/-! ## Twin work -/

namespace Engine

variable (engine : Engine) {recorder recorder' : Recorder} {table table' : Registrations}

lemma wrappable_iff_of_twins (h : Registrations.Twins recorder recorder' table table')
    (pc : Address) : engine.Wrappable table' pc ↔ engine.Wrappable table pc := by
  unfold Wrappable
  rw [h.mem_iff]

lemma unwrappable_iff_of_twins (h : Registrations.Twins recorder recorder' table table')
    (pc : Address) : engine.Unwrappable table' pc ↔ engine.Unwrappable table pc := by
  unfold Unwrappable
  rw [h.mem_iff]

/-- What a pass over a table yields depends on the resolver calls before it, and on nothing else
of the run. -/
lemma enumerateTable_fst_congr (seen : List Address) (table : List Export)
    {run run' : Run} (h : run'.resolverCalls = run.resolverCalls) :
    (engine.enumerateTable seen table run').1 = (engine.enumerateTable seen table run).1 := by
  induction table generalizing seen run run' with
  | nil => rfl
  | cons symbol rest ih =>
    have hfst : (engine.resolveEntry symbol run').1 = (engine.resolveEntry symbol run).1 := by
      rw [resolveEntry_fst, resolveEntry_fst, h]
    have hcalls : (engine.resolveEntry symbol run').2.resolverCalls =
        (engine.resolveEntry symbol run).2.resolverCalls := by
      rw [resolveEntry_resolverCalls, resolveEntry_resolverCalls, h]
    simp only [enumerateTable]
    generalize engine.resolveEntry symbol run = step at hfst hcalls
    generalize engine.resolveEntry symbol run' = step' at hfst hcalls
    obtain ⟨answer, after⟩ := step
    obtain ⟨answer', after'⟩ := step'
    obtain rfl : answer = answer' := hfst.symm
    cases answer with
    | none => exact ih seen hcalls
    | some entry =>
      simp only
      split
      · exact ih seen hcalls
      · rw [ih (entry :: seen) hcalls]

lemma enumerate_fst_congr (m : Module) {run run' : Run}
    (h : run'.resolverCalls = run.resolverCalls) :
    (engine.enumerate m run').1 = (engine.enumerate m run).1 := by
  have hcalls : (engine.listExports m run').2.resolverCalls =
      (engine.listExports m run).2.resolverCalls := by
    rw [listExports_resolverCalls, listExports_resolverCalls, h]
  simp only [enumerate, listExports_fst]
  exact engine.enumerateTable_fst_congr [] _ hcalls

end Engine

namespace Interception

/-- Two interceptions differ in what their recorders write, if at all. -/
structure Alike (interception interception' : Interception) : Prop where
  checks : interception'.checks = interception.checks
  exeStart : interception'.recorder.exeStart = interception.recorder.exeStart

variable {interception interception' : Interception} {engine : Engine} {m : Module}
  {run run' : Run} {recorder recorder' : Recorder}

lemma rollBack_twins (installed : List Address)
    (h : Registrations.Twins recorder recorder' run.registrations run'.registrations) :
    Registrations.Twins recorder recorder' (rollBack engine m installed run).registrations
      (rollBack engine m installed run').registrations := by
  change Registrations.Twins recorder recorder' (List.foldl _ run installed).registrations
    (List.foldl _ run' installed).registrations
  induction installed generalizing run run' with
  | nil => exact h
  | cons pc rest ih =>
    rw [List.foldl_cons, List.foldl_cons]
    apply ih
    by_cases hunwrap : engine.Unwrappable run.registrations pc
    · obtain ⟨after, hafter, htable⟩ := Engine.unwrap_granted hunwrap
      obtain ⟨after', hafter', htable'⟩ :=
        Engine.unwrap_granted ((engine.unwrappable_iff_of_twins h pc).2 hunwrap)
      simp only [hafter, hafter', htable, htable']
      exact h.erase pc
    · obtain ⟨cause, after, hafter, htable⟩ := Engine.unwrap_refused hunwrap
      obtain ⟨cause', after', hafter', htable'⟩ :=
        Engine.unwrap_refused (mt (engine.unwrappable_iff_of_twins h pc).1 hunwrap)
      simp only [hafter, hafter', Run.note, Run.enter, htable, htable']
      exact h

lemma wrapAll_twins (alike : Alike interception interception') (installed : List Address)
    (symbols : List ResolvedExport)
    (h : Registrations.Twins interception.recorder interception'.recorder run.registrations
      run'.registrations) :
    Registrations.Twins interception.recorder interception'.recorder
      (interception.wrapAll engine m installed symbols run).2.registrations
      (interception'.wrapAll engine m installed symbols run').2.registrations := by
  induction symbols generalizing installed run run' with
  | nil => exact h
  | cons symbol rest ih =>
    have hsame := engine.wrappable_iff_of_twins h symbol.entry
    by_cases hwrap : engine.Wrappable run.registrations symbol.entry
    · obtain ⟨after, hstep, htable⟩ := wrapAll_cons_granted interception m installed rest hwrap
      obtain ⟨after', hstep', htable'⟩ :=
        wrapAll_cons_granted interception' m installed rest (hsame.2 hwrap)
      rw [hstep, hstep']
      apply ih
      rw [htable, htable']
      exact h.insert symbol.entry symbol.name
    · have hwrap' : ¬ engine.Wrappable run'.registrations symbol.entry := mt hsame.1 hwrap
      cases hchecks : interception.checks with
      | abort =>
        obtain ⟨cause, after, hstep, htable⟩ :=
          wrapAll_cons_aborted interception m installed rest hchecks hwrap
        obtain ⟨cause', after', hstep', htable'⟩ := wrapAll_cons_aborted interception' m installed
          rest (alike.checks.trans hchecks) hwrap'
        rw [hstep, hstep']
        apply rollBack_twins
        rwa [htable, htable']
      | ignore =>
        obtain ⟨after, hstep, htable⟩ :=
          wrapAll_cons_ignored interception m installed rest hchecks hwrap
        obtain ⟨after', hstep', htable'⟩ := wrapAll_cons_ignored interception' m installed rest
          (alike.checks.trans hchecks) hwrap'
        rw [hstep, hstep']
        apply ih
        rwa [htable, htable']

lemma unwrapAll_twins (alike : Alike interception interception') (removed : Nat)
    (symbols : List ResolvedExport)
    (h : Registrations.Twins recorder recorder' run.registrations run'.registrations) :
    Registrations.Twins recorder recorder'
      (interception.unwrapAll engine m removed symbols run).2.registrations
      (interception'.unwrapAll engine m removed symbols run').2.registrations := by
  induction symbols generalizing removed run run' with
  | nil => exact h
  | cons symbol rest ih =>
    have hsame := engine.unwrappable_iff_of_twins h symbol.entry
    by_cases hunwrap : engine.Unwrappable run.registrations symbol.entry
    · obtain ⟨after, hstep, htable⟩ := unwrapAll_cons_granted interception m removed rest hunwrap
      obtain ⟨after', hstep', htable'⟩ :=
        unwrapAll_cons_granted interception' m removed rest (hsame.2 hunwrap)
      rw [hstep, hstep']
      apply ih
      rw [htable, htable']
      exact h.erase symbol.entry
    · have hunwrap' : ¬ engine.Unwrappable run'.registrations symbol.entry := mt hsame.1 hunwrap
      cases hchecks : interception.checks with
      | abort =>
        obtain ⟨cause, after, hstep, htable⟩ :=
          unwrapAll_cons_aborted interception m removed rest hchecks hunwrap
        obtain ⟨cause', after', hstep', htable'⟩ := unwrapAll_cons_aborted interception' m removed
          rest (alike.checks.trans hchecks) hunwrap'
        rw [hstep, hstep']
        change Registrations.Twins _ _ after.registrations after'.registrations
        rwa [htable, htable']
      | ignore =>
        obtain ⟨after, hstep, htable⟩ :=
          unwrapAll_cons_ignored interception m removed rest hchecks hunwrap
        obtain ⟨after', hstep', htable'⟩ := unwrapAll_cons_ignored interception' m removed rest
          (alike.checks.trans hchecks) hunwrap'
        rw [hstep, hstep']
        apply ih
        rwa [htable, htable']

lemma unwrapAll_resolverCalls (removed : Nat) (symbols : List ResolvedExport) (run : Run) :
    (interception.unwrapAll engine m removed symbols run).2.resolverCalls =
      run.resolverCalls := by
  induction symbols generalizing removed run with
  | nil => rfl
  | cons symbol rest ih =>
    have hcalls := engine.unwrap_resolverCalls symbol.entry recorderId run
    simp only [unwrapAll]
    split <;> rename_i heq <;> rw [heq] at hcalls
    · exact (ih _ _).trans hcalls
    · cases interception.checks with
      | abort => exact hcalls
      | ignore => exact (ih _ _).trans hcalls

lemma onLoad_twins (alike : Alike interception interception')
    (hcalls : run'.resolverCalls = run.resolverCalls)
    (h : Registrations.Twins interception.recorder interception'.recorder run.registrations
      run'.registrations) :
    Registrations.Twins interception.recorder interception'.recorder
        (interception.onLoad engine m run).2.registrations
        (interception'.onLoad engine m run').2.registrations ∧
      (interception'.onLoad engine m run').2.resolverCalls =
        (interception.onLoad engine m run).2.resolverCalls := by
  have hmain : interception'.isMainExecutable m = interception.isMainExecutable m := by
    rw [isMainExecutable, isMainExecutable, alike.exeStart]
  unfold onLoad
  rw [hmain]
  split
  · exact ⟨h, hcalls⟩
  · simp only [engine.enumerate_fst_congr m hcalls, wrapAll_resolverCalls]
    refine ⟨wrapAll_twins alike [] _ ?_, ?_⟩
    · rwa [Engine.enumerate_registrations, Engine.enumerate_registrations]
    · rw [Engine.enumerate_resolverCalls, Engine.enumerate_resolverCalls, hcalls]

lemma onUnload_twins (alike : Alike interception interception')
    (hcalls : run'.resolverCalls = run.resolverCalls)
    (h : Registrations.Twins recorder recorder' run.registrations run'.registrations) :
    Registrations.Twins recorder recorder' (interception.onUnload engine m run).2.registrations
        (interception'.onUnload engine m run').2.registrations ∧
      (interception'.onUnload engine m run').2.resolverCalls =
        (interception.onUnload engine m run).2.resolverCalls := by
  have hmain : interception'.isMainExecutable m = interception.isMainExecutable m := by
    rw [isMainExecutable, isMainExecutable, alike.exeStart]
  unfold onUnload
  rw [hmain]
  split
  · exact ⟨h, hcalls⟩
  · simp only [engine.enumerate_fst_congr m hcalls, unwrapAll_resolverCalls]
    refine ⟨unwrapAll_twins alike 0 _ ?_, ?_⟩
    · rwa [Engine.enumerate_registrations, Engine.enumerate_registrations]
    · rw [Engine.enumerate_resolverCalls, Engine.enumerate_resolverCalls, hcalls]

end Interception

/-! ## Twin runs -/

namespace Run

/-- Two runs with one session each differ in what the recorders of the sessions write. -/
structure Twins (interception interception' : Interception) (policy : FailurePolicy)
    (run run' : Run) : Prop where
  table : Registrations.Twins interception.recorder interception'.recorder run.registrations
    run'.registrations
  resolverCalls : run'.resolverCalls = run.resolverCalls
  held : run'.held = run.held
  /-- The session observes under the same subscriptions, and nobody else does. -/
  observers : ∃ ids : List SubscriptionId,
    run.observers = ids.map (·, .session interception policy) ∧
      run'.observers = ids.map (·, .session interception' policy)

variable {interception interception' : Interception} {policy : FailurePolicy} {run run' : Run}

/-- The journals of twins may be anything. -/
lemma Twins.with_journal (h : Twins interception interception' policy run run')
    (journal journal' : Journal) :
    Twins interception interception' policy { run with journal := journal }
      { run' with journal := journal' } :=
  ⟨h.table, h.resolverCalls, h.held, h.observers⟩

/-- Work on twin tables makes twins of twins. -/
lemma Twins.of_confined (h : Twins interception interception' policy run run') {after after' : Run}
    (hafter : Confined run after) (hafter' : Confined run' after')
    (hwork : Registrations.Twins interception.recorder interception'.recorder after.registrations
      after'.registrations ∧ after'.resolverCalls = after.resolverCalls) :
    Twins interception interception' policy after after' where
  table := hwork.1
  resolverCalls := hwork.2
  held := by rw [hafter.held, hafter'.held, h.held]
  observers := by
    rw [hafter.observers, hafter'.observers]
    exact h.observers

lemma settle_twins (id : SubscriptionId) {outcome outcome' : Except InterceptError Nat × Run}
    (h : Twins interception interception' policy outcome.2 outcome'.2) :
    Twins interception interception' policy (settle policy id outcome)
      (settle policy id outcome') := by
  obtain ⟨journal, hsettle⟩ := exists_settle_eq policy id outcome
  obtain ⟨journal', hsettle'⟩ := exists_settle_eq policy id outcome'
  rw [hsettle, hsettle']
  exact h.with_journal journal journal'

lemma release_twins (id : SubscriptionId)
    (h : Twins interception interception' policy run run') :
    Twins interception interception' policy (run.release id) (run'.release id) := by
  unfold release
  rw [h.held]
  split
  · obtain ⟨ids, hids, hids'⟩ := h.observers
    refine ⟨h.table, h.resolverCalls, rfl, ids.filter (· ≠ id), ?_, ?_⟩
    · simp only [unsubscribe, enter, hids, List.filter_map]
      rfl
    · simp only [unsubscribe, enter, hids', List.filter_map]
      rfl
  · exact h

/-- Twins that receive a report stay twins. -/
lemma receive_twins (alike : Interception.Alike interception interception') (engine : Engine)
    (id : SubscriptionId) (event : Lifecycle)
    (h : Twins interception interception' policy run run') :
    Twins interception interception' policy
      (Observer.receive engine id event run (.session interception policy))
      (Observer.receive engine id event run' (.session interception' policy)) := by
  cases event with
  | loaded m already =>
    exact settle_twins id (h.of_confined (interception.onLoad_confined engine m run)
      (interception'.onLoad_confined engine m run')
      (Interception.onLoad_twins alike h.resolverCalls h.table))
  | unloaded m =>
    exact settle_twins id (h.of_confined (interception.onUnload_confined engine m run)
      (interception'.onUnload_confined engine m run')
      (Interception.onUnload_twins alike h.resolverCalls h.table))
  | forked => exact h.with_journal _ _
  | exiting => exact release_twins id (h.with_journal _ _)

lemma receiveAll_twins (alike : Interception.Alike interception interception') (engine : Engine)
    (events : List Lifecycle) (id : SubscriptionId)
    (h : Twins interception interception' policy run run') :
    Twins interception interception' policy
      (run.receiveAll engine events (id, .session interception policy))
      (run'.receiveAll engine events (id, .session interception' policy)) := by
  unfold receiveAll
  induction events generalizing run run' with
  | nil => exact h
  | cons event events ih => exact ih (receive_twins alike engine id event h)

/-- A report to all observers leaves twins twins. -/
lemma deliver_twins (alike : Interception.Alike interception interception') (engine : Engine)
    (events : List Lifecycle) (h : Twins interception interception' policy run run') :
    Twins interception interception' policy (run.deliver engine events)
      (run'.deliver engine events) := by
  obtain ⟨ids, hids, hids'⟩ := h.observers
  unfold deliver
  rw [hids, hids', List.foldl_map, List.foldl_map]
  clear hids hids'
  induction ids generalizing run run' with
  | nil => exact h
  | cons id ids ih => exact ih (receiveAll_twins alike engine events id h)

/-- Hooks that run write to the journal alone. -/
lemma exists_call_eq (engine : Engine) (call : Call) (run : Run) :
    ∃ journal, (run.call engine call).2 = { run with journal := journal } := by
  have hhooks : ∀ (hooks : List Registration) (run : Run),
      ∃ journal, hooks.foldl (runHook engine call) run = { run with journal := journal } := by
    intro hooks
    induction hooks with
    | nil => exact fun run => ⟨run.journal, rfl⟩
    | cons hook hooks ih =>
      intro run
      obtain ⟨journal, hjournal⟩ := ih (run.runHook engine call hook)
      refine ⟨journal, hjournal.trans ?_⟩
      unfold runHook
      split
      · split <;> rfl
      · rfl
  exact hhooks _ run

lemma call_twins (engine : Engine) (call : Call)
    (h : Twins interception interception' policy run run') :
    Twins interception interception' policy (run.call engine call).2
      (run'.call engine call).2 := by
  obtain ⟨journal, hjournal⟩ := exists_call_eq engine call run
  obtain ⟨journal', hjournal'⟩ := exists_call_eq engine call run'
  rw [hjournal, hjournal']
  exact h.with_journal journal journal'

end Run

/-- The interception of a session that is attached to an engine. -/
def Session.interceptionFor (engine : Engine) (checks : ConsistencyChecks) (onlyFromApp : Bool) :
    Interception :=
  ⟨⟨onlyFromApp, engine.mainModule.map (·.start)⟩, checks⟩

/-- Attached with and without the origin filter, one run becomes twins. -/
lemma Session.attach_twins (engine : Engine) (options options' : Options)
    (checks : ConsistencyChecks) (policy : FailurePolicy) {run : Run}
    (htable : run.registrations = ∅) (hobservers : run.observers = []) :
    Run.Twins (interceptionFor engine checks options.onlyFromApp)
      (interceptionFor engine checks options'.onlyFromApp) policy
      (Session.attach engine options checks policy run).2
      (Session.attach engine options' checks policy run).2 := by
  have hempty : ∀ recorder recorder',
      Registrations.Twins recorder recorder' run.registrations run.registrations := by
    intro recorder recorder'
    rw [htable]
    exact ⟨_, Registrations.carries_empty recorder, Registrations.carries_empty recorder'⟩
  -- The observer is there before the greeting comes, and the subscription is held only after it.
  let subscribed (chosen : Options) : Run :=
    { run.note ((engine.mainModule.map (·.start)).elim .noMainExecutable .mainExecutable) with
      flags := ⟨true, true⟩
      observers := run.observers ++ [(run.nextSubscription,
        .session (interceptionFor engine checks chosen.onlyFromApp) policy)]
      nextSubscription := run.nextSubscription + 1 }
  have hsubscribed : Run.Twins (interceptionFor engine checks options.onlyFromApp)
      (interceptionFor engine checks options'.onlyFromApp) policy
      (subscribed options) (subscribed options') := by
    refine ⟨hempty _ _, rfl, rfl, [run.nextSubscription], ?_, ?_⟩
    · simp [subscribed, hobservers]
    · simp [subscribed, hobservers]
  have alike : Interception.Alike (interceptionFor engine checks options.onlyFromApp)
      (interceptionFor engine checks options'.onlyFromApp) := ⟨rfl, rfl⟩
  have hgreeted :=
    Run.receiveAll_twins alike engine engine.greeting run.nextSubscription hsubscribed
  refine ⟨hgreeted.table, hgreeted.resolverCalls, ?_, hgreeted.observers⟩
  exact congrArg (· ++ [run.nextSubscription]) hgreeted.held

end CallTrace
