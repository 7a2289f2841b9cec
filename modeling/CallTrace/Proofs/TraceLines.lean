import CallTrace.Proofs.TwinRuns
import CallTrace.Scenario

/-!
# The lines of a trace

A script is what happens to a traced process: reports of the engine and calls of functions.  The
engine may answer differently at every step.  This file says which lines a session writes as a
script is played, and what the origin filter does to them.

A call is *traced* if a recorder stands at its function at that moment (`tracedCalls`).  Without the
filter there is one line for each traced call and no other line; with the filter these are the lines
of the traced calls that return into the main executable, as it was known when the session was
attached (`lines_with_and_without_filter`).  The two runs are twins, so that the registrations are
the same at every moment and a call is traced in both or in none.
-/

namespace CallTrace

/-! ## Scripts -/

/-- What happens to a traced process. -/
inductive Happening where
  /-- The engine reports an event to its observers. -/
  | reported (event : Lifecycle)
  /-- A function is called. -/
  | called (call : Call)

/-- What happens in order, each time with the engine as it is then. -/
abbrev Script := List (Engine × Happening)

/-- A call of a function at which a recorder stands, with the symbol that is registered there. -/
structure TracedCall where
  engine : Engine
  call : Call
  symbol : String

namespace TracedCall

/-- The line for a traced call. -/
def line (traced : TracedCall) : String :=
  TraceLine.format
    (((traced.engine.lookupModule traced.call.func).map Module.name).getD "") traced.symbol

/-- Whether the call has a return address, not null, in a module with this start. -/
def fromApplication (exeStart : Option Address) (traced : TracedCall) : Bool :=
  match traced.call.ret with
  | .error _ => false
  | .ok ret => ret ≠ 0 && (traced.engine.lookupModule ret).any fun m => exeStart = some m.start

/-- Without a main executable no call is one of the application. -/
lemma not_fromApplication_none (traced : TracedCall) : ¬ traced.fromApplication none = true := by
  unfold fromApplication
  split <;> simp

end TracedCall

/-- As long as no foreign hook has run, all that hooks show is the trace. -/
lemma Journal.lines_eq_trace {journal : Journal}
    (h : ∀ hook data, .ran hook data ∉ journal.toList) : journal.lines = journal.trace := by
  refine List.filterMap_congr fun entry hentry => ?_
  cases entry with
  | ran hook data => exact absurd hentry (h hook data)
  | _ => rfl

namespace Run

/-- One thing happens. -/
def happen (engine : Engine) (run : Run) : Happening → Run
  | .reported event => run.deliver engine [event]
  | .called call => (run.call engine call).2

/-- The run after a script. -/
def play (script : Script) (run : Run) : Run :=
  script.foldl (fun run step => run.happen step.1 step.2) run

/-- The call that is traced when something happens. -/
def tracedNow (engine : Engine) (run : Run) : Happening → Option TracedCall
  | .reported _ => none
  | .called call => run.registrations[Key.recorder call.func]?.map fun registration =>
      ⟨engine, call, registration.data⟩

/-- The calls that are traced as a script is played. -/
def tracedCalls : Script → Run → List TracedCall
  | [], _ => []
  | (engine, happening) :: rest, run =>
    (run.tracedNow engine happening).toList ++ tracedCalls rest (run.happen engine happening)

/-! ## Lines and reports -/

lemma trace_enter_line (run : Run) (text : String) :
    (run.enter (.line text)).journal.trace = run.journal.trace ++ [text] := by
  simp [enter, Journal.trace]

lemma trace_enter {effect : Effect} (run : Run) (h : ∀ text, effect ≠ .line text) :
    (run.enter effect).journal.trace = run.journal.trace := by
  cases effect with
  | line text => exact absurd rfl (h text)
  | _ => simp [enter, Journal.trace]

lemma trace_note (run : Run) (notice : Notice) :
    (run.note notice).journal.trace = run.journal.trace :=
  run.trace_enter fun _ => Effect.noConfusion

/-- Work on registrations writes no line. -/
lemma Confined.trace_eq {before after : Run} (h : Confined before after) :
    after.journal.trace = before.journal.trace := by
  refine h.filterMap_eq _ fun effect hwork => ?_
  cases effect <;> simp_all [Effect.isWork]

lemma trace_settle (policy : FailurePolicy) (id : SubscriptionId)
    (outcome : Except InterceptError Nat × Run) :
    (settle policy id outcome).journal.trace = outcome.2.journal.trace := by
  obtain ⟨answer, after⟩ := outcome
  cases answer with
  | ok n => rfl
  | error cause =>
    cases policy with
    | report => exact after.trace_enter fun _ => Effect.noConfusion
    | abort =>
      have habort : ((after.note (.fatal cause)).enter .abort).journal.trace =
          (after.note (.fatal cause)).journal.trace := trace_enter _ fun _ => Effect.noConfusion
      exact habort.trans (after.trace_note _)

lemma trace_release (id : SubscriptionId) (run : Run) :
    (run.release id).journal.trace = run.journal.trace := by
  unfold release
  split
  · exact trace_enter _ fun _ => Effect.noConfusion
  · rfl

/-- Whoever receives a report writes no line. -/
lemma trace_receive (engine : Engine) (id : SubscriptionId) (event : Lifecycle) (run : Run)
    (observer : Observer) :
    (observer.receive engine id event run).journal.trace = run.journal.trace := by
  cases observer with
  | watcher => exact run.trace_enter fun _ => Effect.noConfusion
  | session interception policy =>
    cases event with
    | loaded m already =>
      exact (trace_settle policy id _).trans (interception.onLoad_confined engine m run).trace_eq
    | unloaded m =>
      exact (trace_settle policy id _).trans (interception.onUnload_confined engine m run).trace_eq
    | forked => exact run.trace_note .forked
    | exiting => exact (trace_release id _).trans (run.trace_note .exiting)

lemma trace_receiveAll (engine : Engine) (events : List Lifecycle) (run : Run)
    (subscriber : SubscriptionId × Observer) :
    (run.receiveAll engine events subscriber).journal.trace = run.journal.trace :=
  receiveAll_of_receive (·.journal.trace = run.journal.trace)
    (fun event _ after hafter => (trace_receive engine _ event after _).trans hafter) rfl

lemma trace_deliver (engine : Engine) (events : List Lifecycle) (run : Run) :
    (run.deliver engine events).journal.trace = run.journal.trace :=
  deliver_of_receive (·.journal.trace = run.journal.trace)
    (fun _ _ event _ after hafter => (trace_receive engine _ event after _).trans hafter) rfl

end Run

lemma Session.trace_attach (engine : Engine) (options : Options) (checks : ConsistencyChecks)
    (policy : FailurePolicy) (run : Run) :
    (Session.attach engine options checks policy run).2.journal.trace = run.journal.trace := by
  refine (Run.trace_note _ _).trans ?_
  refine (Run.trace_receiveAll engine engine.greeting _ _).trans ?_
  exact run.trace_note _

/-! ## Lines and calls -/

namespace Registrations

variable {recorder : Recorder} {table : Registrations} {symbols : Address → Option String}

lemma Carries.mem_filter_iff (h : Carries recorder table symbols) {pc : Address}
    {row : Key × Registration} :
    row ∈ table.toList.filter (·.1.pc = pc) ↔
      row.1 = Key.recorder pc ∧
        ∃ symbol, symbols pc = some symbol ∧ row.2 = ⟨.recorder recorder, symbol⟩ := by
  rw [List.mem_filter, h.mem_toList_iff, decide_eq_true_iff]
  constructor
  · rintro ⟨⟨hhook, hsymbol⟩, rfl⟩
    exact ⟨(Key.recorder_pc hhook).symm, hsymbol⟩
  · rintro ⟨hkey, hsymbol⟩
    rw [hkey]
    exact ⟨⟨rfl, hsymbol⟩, rfl⟩

/-- At an address there is one hook or none, the recorder that the table carries. -/
lemma Carries.hooksAt_eq (h : Carries recorder table symbols) (pc : Address) :
    table.hooksAt pc =
      (symbols pc).toList.map fun symbol => ⟨.recorder recorder, symbol⟩ := by
  unfold hooksAt
  cases hsymbol : symbols pc with
  | none =>
    have hnil : table.toList.filter (·.1.pc = pc) = [] := by
      rw [List.eq_nil_iff_forall_not_mem]
      intro row hrow
      obtain ⟨-, symbol, hsome, -⟩ := h.mem_filter_iff.1 hrow
      rw [hsymbol] at hsome
      exact absurd hsome (by simp)
    rw [hnil]
    rfl
  | some symbol =>
    have hone : table.toList.filter (·.1.pc = pc) =
        [(Key.recorder pc, ⟨.recorder recorder, symbol⟩)] := by
      rw [← List.perm_singleton,
        List.perm_ext_iff_of_nodup (table.nodup_toList.filter _) (List.nodup_singleton _)]
      rintro ⟨key, registration⟩
      rw [h.mem_filter_iff, hsymbol]
      simp
    rw [hone]
    rfl

end Registrations

namespace Recorder

variable {recorder : Recorder} {traced : TracedCall}

lemma origin_eq_application_iff_fromApplication :
    recorder.origin traced.engine traced.call = .application ↔
      traced.fromApplication recorder.exeStart = true := by
  rw [origin_eq_application_iff, TracedCall.fromApplication]
  cases traced.call.ret with
  | error fault => simp
  | ok ret =>
    cases hlookup : traced.engine.lookupModule ret <;>
      simp [hlookup, @eq_comm _ recorder.exeStart]

/-- Without the filter there is a line for every traced call. -/
lemma line?_of_plain (h : recorder.onlyFromApp = false) :
    recorder.line? traced.engine traced.call traced.symbol = some traced.line := by
  rw [line?, h, if_neg (by simp)]
  rfl

lemma line?_of_filtered (h : recorder.onlyFromApp = true) :
    recorder.line? traced.engine traced.call traced.symbol =
      if traced.fromApplication recorder.exeStart then some traced.line else none := by
  rw [line?, h]
  by_cases horigin : recorder.origin traced.engine traced.call = .application
  · have hfrom := origin_eq_application_iff_fromApplication.1 horigin
    rw [if_neg (by simp [horigin]), if_pos hfrom]
    rfl
  · have hfrom := mt origin_eq_application_iff_fromApplication.2 horigin
    rw [if_pos ⟨rfl, horigin⟩, if_neg hfrom]

end Recorder

/-- The line that a hook writes to the trace. -/
def Hook.line? (engine : Engine) (call : Call) (data : String) : Hook → Option String
  | .recorder own => own.line? engine call data
  | .foreign _ => none

namespace Run

lemma trace_runHook (engine : Engine) (call : Call) (run : Run) (registration : Registration) :
    (run.runHook engine call registration).journal.trace = run.journal.trace ++
      (registration.hook.line? engine call registration.data).toList := by
  obtain ⟨hook, data⟩ := registration
  cases hook with
  | recorder own =>
    simp only [runHook, Hook.line?]
    cases own.line? engine call data with
    | none => exact (List.append_nil _).symm
    | some text => exact run.trace_enter_line text
  | foreign id =>
    exact (run.trace_enter fun _ => Effect.noConfusion).trans (List.append_nil _).symm

lemma trace_runHooks (engine : Engine) (call : Call) (hooks : List Registration) (run : Run) :
    (hooks.foldl (runHook engine call) run).journal.trace = run.journal.trace ++
      hooks.filterMap fun registration =>
        registration.hook.line? engine call registration.data := by
  induction hooks generalizing run with
  | nil => simp
  | cons registration hooks ih =>
    rw [List.foldl_cons, ih, trace_runHook, List.filterMap_cons, List.append_assoc]
    cases registration.hook.line? engine call registration.data <;> rfl

/-- What a call adds to the lines, in a run whose table carries one recorder. -/
lemma trace_happen {recorder : Recorder} {run : Run} {symbols : Address → Option String}
    (h : Registrations.Carries recorder run.registrations symbols) (engine : Engine)
    (happening : Happening) :
    (run.happen engine happening).journal.trace = run.journal.trace ++
      (run.tracedNow engine happening).toList.filterMap fun traced =>
        recorder.line? traced.engine traced.call traced.symbol := by
  cases happening with
  | reported event =>
    refine (run.trace_deliver engine [event]).trans ?_
    simp [tracedNow]
  | called call =>
    refine (trace_runHooks engine call _ run).trans ?_
    rw [h.hooksAt_eq, tracedNow, h, if_pos rfl]
    cases symbols call.func <;> rfl

variable {interception interception' : Interception} {policy : FailurePolicy} {run run' : Run}

lemma Twins.tracedNow_eq (h : Twins interception interception' policy run run') (engine : Engine)
    (happening : Happening) :
    run'.tracedNow engine happening = run.tracedNow engine happening := by
  obtain ⟨symbols, hcarries, hcarries'⟩ := h.table
  cases happening with
  | reported event => rfl
  | called call =>
    rw [tracedNow, tracedNow, hcarries, hcarries', if_pos rfl, if_pos rfl, Option.map_map,
      Option.map_map]
    rfl

lemma happen_twins (alike : Interception.Alike interception interception') (engine : Engine)
    (happening : Happening) (h : Twins interception interception' policy run run') :
    Twins interception interception' policy (run.happen engine happening)
      (run'.happen engine happening) := by
  cases happening with
  | reported event => exact deliver_twins alike engine [event] h
  | called call => exact call_twins engine call h

lemma play_twins (alike : Interception.Alike interception interception') (script : Script)
    (h : Twins interception interception' policy run run') :
    Twins interception interception' policy (run.play script) (run'.play script) := by
  unfold play
  induction script generalizing run run' with
  | nil => exact h
  | cons step script ih => exact ih (happen_twins alike step.1 step.2 h)

/-- Twins trace the same calls, and each writes what its recorder has to say about them. -/
lemma trace_play (alike : Interception.Alike interception interception') (script : Script)
    (h : Twins interception interception' policy run run') :
    (run.play script).journal.trace = run.journal.trace ++
        (tracedCalls script run).filterMap (fun traced =>
          interception.recorder.line? traced.engine traced.call traced.symbol) ∧
      (run'.play script).journal.trace = run'.journal.trace ++
        (tracedCalls script run).filterMap fun traced =>
          interception'.recorder.line? traced.engine traced.call traced.symbol := by
  induction script generalizing run run' with
  | nil => simp [play, tracedCalls]
  | cons step script ih =>
    obtain ⟨engine, happening⟩ := step
    obtain ⟨hlines, hlines'⟩ := ih (happen_twins alike engine happening h)
    obtain ⟨symbols, hcarries, hcarries'⟩ := h.table
    rw [trace_happen hcarries] at hlines
    rw [trace_happen hcarries', h.tracedNow_eq] at hlines'
    simp only [tracedCalls, List.filterMap_append, ← List.append_assoc]
    exact ⟨hlines, hlines'⟩

end Run

/-- **The lines of a trace with and without the origin filter.**  Attach a session in a run in which
nothing is registered and nobody else observes, once without the filter and once with it, and play a
script.  Then the registrations are the same after each part of the script.  Without the filter
each traced call gives a line, and with it each traced call that returns into the main executable;
so there is no line at all with the filter if the engine knew no main executable. -/
theorem lines_with_and_without_filter (engine : Engine) (options : Options)
    (checks : ConsistencyChecks) (policy : FailurePolicy) (run : Run)
    (htable : run.registrations = ∅) (hobservers : run.observers = []) (script : Script) :
    let attached (onlyFromApp : Bool) :=
      (Session.attach engine { options with onlyFromApp := onlyFromApp } checks policy run).2
    let traced := Run.tracedCalls script (attached false)
    let exeStart := engine.mainModule.map (·.start)
    (∀ before, before <+: script →
      ((attached true).play before).registrations.map (fun _ registration => registration.data) =
        ((attached false).play before).registrations.map fun _ registration =>
          registration.data) ∧
      ((attached false).play script).journal.trace =
        run.journal.trace ++ traced.map TracedCall.line ∧
      ((attached true).play script).journal.trace =
        run.journal.trace ++
          (traced.filter (TracedCall.fromApplication exeStart)).map TracedCall.line ∧
      (engine.mainModule = none →
        ((attached true).play script).journal.trace = run.journal.trace) := by
  intro attached traced exeStart
  have alike : Interception.Alike (Session.interceptionFor engine checks false)
      (Session.interceptionFor engine checks true) := ⟨rfl, rfl⟩
  have twins : Run.Twins (Session.interceptionFor engine checks false)
      (Session.interceptionFor engine checks true) policy (attached false) (attached true) :=
    Session.attach_twins engine { options with onlyFromApp := false }
      { options with onlyFromApp := true } checks policy htable hobservers
  have hattached : ∀ onlyFromApp, (attached onlyFromApp).journal.trace = run.journal.trace :=
    fun onlyFromApp => Session.trace_attach engine _ checks policy run
  obtain ⟨hplain, hfiltered⟩ := Run.trace_play alike script twins
  have hlines : ((attached false).play script).journal.trace =
      run.journal.trace ++ traced.map TracedCall.line := by
    rw [hplain, hattached, ← List.filterMap_eq_map]
    refine congrArg (run.journal.trace ++ ·) (List.filterMap_congr fun call _ => ?_)
    exact Recorder.line?_of_plain rfl
  have hlines' : ((attached true).play script).journal.trace = run.journal.trace ++
      (traced.filter (TracedCall.fromApplication exeStart)).map TracedCall.line := by
    rw [hfiltered, hattached, ← List.filterMap_eq_map, List.filterMap_filter]
    refine congrArg (run.journal.trace ++ ·) (List.filterMap_congr fun call _ => ?_)
    exact Recorder.line?_of_filtered rfl
  refine ⟨fun before _ => (Run.play_twins alike before twins).table.map_data, hlines, hlines',
    fun hmain => ?_⟩
  have hnone : traced.filter (TracedCall.fromApplication exeStart) = [] := by
    have hexe : exeStart = none := by simp [exeStart, hmain]
    rw [hexe, List.filter_eq_nil_iff]
    exact fun call _ => call.not_fromApplication_none
  rw [hlines', hnone, List.map_nil, List.append_nil]

/-! ## Calls from everywhere -/

namespace CalledFromEverywhere

def app : Module := ⟨0x1000, 0x2000, some "app", none, 0⟩
def liba : Module := ⟨0x2000, 0x3000, some "liba.so", none, 1⟩

def scenario : Scenario where
  modules := [(app, []), (liba, [⟨"open", 0x2100, .code⟩, ⟨"close", 0x2200, .code⟩])]
  main := some 0
  resolvers := []
  wrapRefusals := []
  unwrapRefusals := []
  greeting := []

/-- A library is called by itself, from nowhere known, without a usable return address and by the
application, and once more after it has gone. -/
def script : Script :=
  [.reported (.loaded liba false), .called ⟨0x2100, .ok 0x2300⟩, .called ⟨0x2100, .ok 0x9000⟩,
    .called ⟨0x2100, .ok 0⟩, .called ⟨0x2100, .error (.accessViolation 0x2100)⟩,
    .reported .forked, .called ⟨0x2200, .ok 0x1100⟩, .reported (.unloaded liba),
    .called ⟨0x2200, .ok 0x1100⟩].map (scenario.engine, ·)

def attached (onlyFromApp : Bool) : Run :=
  (Session.attach scenario.engine ⟨none, onlyFromApp, 0⟩ .abort .report Run.start).2

end CalledFromEverywhere

open CalledFromEverywhere in
/-- Without the filter every call of the loaded library gives a line, with it only the one by the
application. -/
theorem lines_of_calls_from_everywhere :
    ((attached false).play script).journal.trace =
        List.replicate 4 "~~~~ liba.so!open\n" ++ ["~~~~ liba.so!close\n"] ∧
      ((attached true).play script).journal.trace = ["~~~~ liba.so!close\n"] := by
  obtain ⟨-, hplain, hfiltered, -⟩ :=
    lines_with_and_without_filter scenario.engine .defaults .abort .report Run.start rfl rfl script
  refine ⟨hplain.trans ?_, hfiltered.trans ?_⟩ <;> decide +kernel

end CallTrace
