import CallTrace.Proofs.SessionLives
import CallTrace.Proofs.SnapshotPlan
import CallTrace.Proofs.TraceLines

/-!
# Plans foretell traces

The text of a plan names the functions that are wrapped, and the lines of a trace name the functions
that are called.  The names are made in two places: the plan asks for the module at the address of
each row, and a recorder for the module of the function that is called.  This file says that the
names agree (`PlanRow.text_eq`), so that the plan tells what a call will write.

That needs a table without hooks of anybody else and sessions without the origin filter
(`Snapshot.Unfiltered`), in any number, whatever has been reported to them.  Then all registrations
are those of a single recorder (`Run.RecordsWith`), since every session takes the start of the main
executable from the snapshot.
-/

namespace CallTrace

/-! ## What a plan says about a call -/

namespace Plan

/-- The text of a plan shows a row as `shown` in front of its address. -/
def Shows (plan : Plan) (row : PlanRow) (shown : String) : Prop :=
  ∃ above below, plan.rows = above ++ row :: below ∧
    plan.text = { plan with rows := above }.text ++
      (shown ++ " @" ++ row.pc.text ++ "\n") ++ { plan with rows := below }.text

/-- Each row is shown by its label and by nothing else. -/
lemma shows_iff {plan : Plan} {row : PlanRow} {shown : String} :
    plan.Shows row shown ↔ row ∈ plan.rows ∧ shown = row.label := by
  have htext : ∀ above below, plan.rows = above ++ row :: below →
      plan.text = { plan with rows := above }.text ++ row.text ++
        { plan with rows := below }.text := by
    intro above below hrows
    rw [text, text, text, hrows, List.map_append, List.map_cons, String.join_append,
      String.join_cons, String.append_assoc]
  constructor
  · rintro ⟨above, below, hrows, hshown⟩
    rw [htext above below hrows, String.append_left_inj, String.append_right_inj, PlanRow.text_eq,
      String.append_left_inj, String.append_left_inj, String.append_left_inj] at hshown
    exact ⟨hrows ▸ List.mem_append_right above List.mem_cons_self, hshown.symm⟩
  · rintro ⟨hrow, rfl⟩
    obtain ⟨above, below, hrows⟩ := List.append_of_mem hrow
    exact ⟨above, below, hrows, row.text_eq ▸ htext above below hrows⟩

/-- The lines of a call according to a plan: none if no row has the address of the function, and
otherwise one, which is what the text shows for the row behind the mark. -/
inductive Foretells (plan : Plan) (call : Call) : List String → Prop where
  | silence (hpc : ∀ row ∈ plan.rows, row.pc ≠ call.func) : Foretells plan call []
  | line {row : PlanRow} {shown : String} (hpc : row.pc = call.func)
      (hshown : plan.Shows row shown) : Foretells plan call [TraceLine.mark ++ shown ++ "\n"]

end Plan

/-! ## One recorder for all sessions -/

namespace Run

/-- All that is registered is one recorder, and all that observe are sessions with it. -/
structure RecordsWith (recorder : Recorder) (run : Run) : Prop where
  table : ∃ symbols, Registrations.Carries recorder run.registrations symbols
  observers : ∀ subscriber ∈ run.observers, ∃ checks policy,
    subscriber.2 = .session ⟨recorder, checks⟩ policy

variable {recorder : Recorder}

/-- What a session registers or removes is its own recorder. -/
lemma receive_carries (engine : Engine) (id : SubscriptionId) (event : Lifecycle)
    (checks : ConsistencyChecks) (policy : FailurePolicy) {run : Run}
    (h : ∃ symbols, Registrations.Carries recorder run.registrations symbols) :
    ∃ symbols, Registrations.Carries recorder
      (Observer.receive engine id event run (.session ⟨recorder, checks⟩ policy)).registrations
      symbols := by
  let interception : Interception := ⟨recorder, checks⟩
  obtain ⟨symbols, hcarries⟩ := h
  -- A table that carries a recorder is its own twin.
  have htwins : Registrations.Twins interception.recorder interception.recorder run.registrations
    run.registrations := ⟨symbols, hcarries, hcarries⟩
  have alike : Interception.Alike interception interception := ⟨rfl, rfl⟩
  cases event with
  | loaded m already =>
    have hload : Registrations.Twins interception.recorder interception.recorder
        (interception.onLoad engine m run).2.registrations
        (interception.onLoad engine m run).2.registrations :=
      (Interception.onLoad_twins alike rfl htwins).1
    obtain ⟨after, hafter, -⟩ := hload
    exact ⟨after, by rwa [Observer.receive, settle_registrations]⟩
  | unloaded m =>
    have hunload : Registrations.Twins interception.recorder interception.recorder
        (interception.onUnload engine m run).2.registrations
        (interception.onUnload engine m run).2.registrations :=
      (Interception.onUnload_twins alike rfl htwins).1
    obtain ⟨after, hafter, -⟩ := hunload
    exact ⟨after, by rwa [Observer.receive, settle_registrations]⟩
  | forked => exact ⟨symbols, hcarries⟩
  | exiting => exact ⟨symbols, by rwa [Observer.receive, registrations_release]⟩

namespace RecordsWith

variable {run : Run}

lemma deliver (h : RecordsWith recorder run) (engine : Engine) (events : List Lifecycle) :
    RecordsWith recorder (run.deliver engine events) where
  table := by
    refine deliver_of_receive
      (fun after => ∃ symbols, Registrations.Carries recorder after.registrations symbols)
      (fun subscriber hsubscriber event _ after hafter => ?_) h.table
    obtain ⟨checks, policy, hobserver⟩ := h.observers subscriber hsubscriber
    rw [hobserver]
    exact receive_carries engine subscriber.1 event checks policy hafter
  observers subscriber hsubscriber := h.observers subscriber
    ((run.deliver_onlyGivesBack engine events).observers.subset hsubscriber)

lemma attach {snapshot : Snapshot} {options : Options}
    (h : RecordsWith ⟨options.onlyFromApp, snapshot.mainModule.map (·.start)⟩ run)
    (checks : ConsistencyChecks) (policy : FailurePolicy) :
    RecordsWith ⟨options.onlyFromApp, snapshot.mainModule.map (·.start)⟩
      (Session.attach snapshot.engine options checks policy run).2 where
  table := h.table
  observers := List.forall_mem_append.2
    ⟨h.observers, List.forall_mem_singleton.2 ⟨checks, policy, rfl⟩⟩

lemma detach (h : RecordsWith recorder run) (session : Session) :
    RecordsWith recorder (session.detach run) where
  table := by
    rw [session.registrations_detach]
    exact h.table
  observers subscriber hsubscriber := by
    have hrelease := run.release_onlyGivesBack session.subscription
    exact h.observers subscriber (hrelease.observers.subset hsubscriber)

lemma call (h : RecordsWith recorder run) (engine : Engine) (call : Call) :
    RecordsWith recorder (run.call engine call).2 := by
  obtain ⟨journal, hjournal⟩ := exists_call_eq engine call run
  rw [hjournal]
  exact ⟨h.table, h.observers⟩

end RecordsWith

end Run

/-! ## Runs without the origin filter -/

namespace Snapshot

/-- The recorder of the sessions that are attached to a snapshot without the origin filter. -/
def plainRecorder (snapshot : Snapshot) : Recorder := ⟨false, snapshot.mainModule.map (·.start)⟩

/-- The runs over a snapshot in which no session filters calls by their origin: in the beginning
nothing is registered and nobody observes, and then sessions come and go, anything is reported,
such as the replays of the snapshot, and functions are called. -/
inductive Unfiltered (snapshot : Snapshot) : Run → Prop where
  | start {run : Run} (htable : run.registrations = ∅) (hobservers : run.observers = []) :
    Unfiltered snapshot run
  | attach {run : Run} (h : Unfiltered snapshot run) (options : Options)
      (hplain : options.onlyFromApp = false) (checks : ConsistencyChecks)
      (policy : FailurePolicy) :
    Unfiltered snapshot (Session.attach snapshot.engine options checks policy run).2
  | detach {run : Run} (h : Unfiltered snapshot run) (session : Session) :
    Unfiltered snapshot (session.detach run)
  | report {run : Run} (h : Unfiltered snapshot run) (events : List Lifecycle) :
    Unfiltered snapshot (run.deliver snapshot.engine events)
  | call {run : Run} (h : Unfiltered snapshot run) (call : Call) :
    Unfiltered snapshot (run.call snapshot.engine call).2

variable {snapshot : Snapshot} {run : Run}

lemma Unfiltered.recordsWith (h : snapshot.Unfiltered run) :
    run.RecordsWith snapshot.plainRecorder := by
  induction h with
  | start htable hobservers =>
    refine ⟨⟨_, htable ▸ Registrations.carries_empty _⟩, ?_⟩
    rw [hobservers]
    exact List.forall_mem_nil _
  | attach _ options hplain checks policy ih =>
    rw [plainRecorder, ← hplain] at ih ⊢
    exact ih.attach checks policy
  | detach _ session ih => exact ih.detach session
  | report _ events ih => exact ih.deliver snapshot.engine events
  | call _ call ih => exact ih.call snapshot.engine call

/-! ## Calls -/

variable {symbols : Address → Option String}

/-- One call writes what the plan foretells. -/
lemma foretells_call (h : Registrations.Carries snapshot.plainRecorder run.registrations symbols)
    (call : Call) :
    ∃ lines, (snapshot.plan false run).Foretells call lines ∧
      (run.call snapshot.engine call).2.journal.trace = run.journal.trace ++ lines := by
  let name : String := ((snapshot.lookupModule call.func).map Module.name).getD ""
  have hlines : (run.call snapshot.engine call).2.journal.trace = run.journal.trace ++
      (symbols call.func).toList.map (TraceLine.format name) := by
    have hline : ∀ symbol, snapshot.plainRecorder.line? snapshot.engine call symbol =
        some (TraceLine.format name symbol) := fun _ => rfl
    refine (Run.trace_runHooks snapshot.engine call _ run).trans ?_
    rw [h.hooksAt_eq, List.filterMap_map, ← List.filterMap_eq_map]
    exact congrArg (run.journal.trace ++ ·) (List.filterMap_congr fun symbol _ => hline symbol)
  refine ⟨_, ?_, hlines⟩
  cases hsymbol : symbols call.func with
  | none =>
    refine .silence fun row hrow hpc => ?_
    obtain ⟨symbol, hsome, -⟩ := (mem_rows_iff h).1 hrow
    rw [hpc, hsymbol] at hsome
    exact absurd hsome (by simp)
  | some symbol =>
    let row : PlanRow := ⟨call.func, recorderId, name, symbol⟩
    have hrow : row ∈ snapshot.rows run := (mem_rows_iff h).2 ⟨symbol, hsymbol, rfl⟩
    have hshown : (snapshot.plan false run).Shows row row.label := Plan.shows_iff.2 ⟨hrow, rfl⟩
    exact .line rfl hshown

/-- A series of calls writes what the plan foretells for each of them. -/
lemma foretells_calls (calls : List Call) {run : Run}
    (h : Registrations.Carries snapshot.plainRecorder run.registrations symbols) :
    ∃ written, List.Forall₂ (snapshot.plan false run).Foretells calls written ∧
      (calls.foldl (fun run call => (run.call snapshot.engine call).2) run).journal.trace =
        run.journal.trace ++ written.flatten := by
  induction calls generalizing run with
  | nil => exact ⟨[], .nil, by simp⟩
  | cons call calls ih =>
    obtain ⟨lines, hforetells, hlines⟩ := foretells_call h call
    obtain ⟨journal, hjournal⟩ := Run.exists_call_eq snapshot.engine call run
    rw [hjournal] at hlines
    -- A call leaves the table as it is, and with it the plan.
    have hcarries : Registrations.Carries snapshot.plainRecorder
      { run with journal := journal }.registrations symbols := h
    obtain ⟨written, hall, hwritten⟩ := ih hcarries
    refine ⟨lines :: written, .cons hforetells hall, ?_⟩
    rw [List.foldl_cons, hjournal, hwritten, hlines, List.flatten_cons, List.append_assoc]

/-- **The plan foretells the trace.**  In a run in which no session filters calls by their origin,
no two rows of the plan have the same address.  Whatever functions are called, the lines that are
written are, call by call, those that the plan foretells: none for a function without a row, and for
a function with a row one line, which is what the text of the plan shows for the row in front of its
address, behind the mark of the trace. -/
theorem trace_foretold_by_plan (snapshot : Snapshot) (run : Run) (h : snapshot.Unfiltered run)
    (calls : List Call) :
    let plan := snapshot.plan false run
    let called := calls.foldl (fun run call => (run.call snapshot.engine call).2) run
    (plan.rows.map (·.pc)).Pairwise (· < ·) ∧
      ∃ written, List.Forall₂ plan.Foretells calls written ∧
        called.journal.trace = run.journal.trace ++ written.flatten := by
  intro plan called
  obtain ⟨symbols, hcarries⟩ := h.recordsWith.table
  exact ⟨pairwise_pc_rows hcarries, foretells_calls calls hcarries⟩

end Snapshot

/-! ## Calls of overlapping libraries -/

namespace Overlapping

lemma loaded_unfiltered : snapshot.Unfiltered loaded := by
  unfold loaded attached Snapshot.replayLoads
  exact .report (.attach (.start rfl rfl) .defaults rfl .ignore .report) _

lemma rows_plan_loaded :
    (snapshot.plan false loaded).rows = [⟨0x2100, recorderId, "liba.so", "open"⟩] := by
  decide +kernel

/-- Without a call there is no line. -/
lemma trace_loaded : loaded.journal.trace = [] := by
  rw [loaded, Snapshot.replayLoads, Run.trace_deliver, attached, Session.trace_attach]
  rfl

end Overlapping

open Overlapping in
/-- The plan shows the function of both libraries under one name, and a call of it writes that
name; a call of another function writes nothing. -/
theorem lines_of_planned_function :
    snapshot.Unfiltered loaded ∧
      ([⟨0x2200, .ok 0x1100⟩, ⟨0x2100, .ok 0x1100⟩].foldl
        (fun run call => (run.call snapshot.engine call).2) loaded).journal.trace =
          ["~~~~ liba.so!open\n"] := by
  obtain ⟨-, written, hforetold, hlines⟩ := Snapshot.trace_foretold_by_plan snapshot loaded
    loaded_unfiltered [⟨0x2200, .ok 0x1100⟩, ⟨0x2100, .ok 0x1100⟩]
  refine ⟨loaded_unfiltered, hlines.trans ?_⟩
  obtain _ | ⟨hother, _ | ⟨hopen, _ | _⟩⟩ := hforetold
  cases hother with
  | line hpc hshown =>
    obtain ⟨hrow, -⟩ := Plan.shows_iff.1 hshown
    rw [rows_plan_loaded, List.mem_singleton] at hrow
    subst hrow
    exact absurd hpc (by decide)
  | silence =>
    cases hopen with
    | silence hpc =>
      rw [rows_plan_loaded] at hpc
      exact absurd rfl (hpc _ (List.mem_singleton_self _))
    | line hpc hshown =>
      obtain ⟨hrow, rfl⟩ := Plan.shows_iff.1 hshown
      rw [rows_plan_loaded, List.mem_singleton] at hrow
      rw [trace_loaded, hrow]
      decide +kernel

end CallTrace
