import Mathlib.Data.List.DropRight
import CallTrace.Proofs.Residency

/-!
# What a history makes of the table

With `ignore` a session copes with every history: modules may load twice, go without having been
loaded, or share entries.  Nothing is reported, and each address can be looked at by itself.  Of the
history only the events count whose modules have the address among their entries (`eventsAt`).  The
last of them decides whether the recorder is there, and the earliest load since the last unload gave
it the name that it still has: a load that finds the key taken is refused and overwrites nothing.

The rule is stated apart from the session (`outcome`), and one more event takes the table from one
outcome to the next (`handle_getElem?`).
-/

namespace CallTrace

open ModuleEvent

/-! ## Counting changes -/

namespace Registrations

/-- The keys that a table has gained. -/
def gained (before after : Registrations) : List Key := after.keys.filter (· ∉ before)

lemma length_gained {before after : Registrations} {addresses : Finset Address}
    (h : ∀ key, key ∈ after ∧ key ∉ before ↔ key.hook = recorderId ∧ key.pc ∈ addresses) :
    (before.gained after).length = addresses.card := by
  have hnodup : (before.gained after).Nodup := by
    refine List.Nodup.filter _ (after.distinct_keys.imp ?_)
    intro key other hne heq
    exact hne (heq ▸ Std.ReflCmp.compare_self)
  have hset : (before.gained after).toFinset = addresses.image Key.recorder := by
    ext key
    rw [List.mem_toFinset, gained, List.mem_filter, Std.ExtTreeMap.mem_keys, decide_eq_true_iff, h,
      Finset.mem_image]
    constructor
    · rintro ⟨hhook, hpc⟩
      exact ⟨key.pc, hpc, Key.recorder_pc hhook⟩
    · rintro ⟨pc, hpc, rfl⟩
      exact ⟨rfl, hpc⟩
  have hinjective : Function.Injective Key.recorder := fun _ _ heq => congrArg Key.pc heq
  rw [← List.toFinset_card_of_nodup hnodup, hset, Finset.card_image_of_injective _ hinjective]

end Registrations

/-- The number of keys that an event has changed: those gained by a load, those lost by an
unload. -/
def ModuleEvent.change (event : ModuleEvent) (before after : Registrations) : Nat :=
  match event with
  | .load _ _ => (before.gained after).length
  | .unload _ => (after.gained before).length

namespace Interception

variable {interception : Interception} {engine : Engine} {run : Run}

lemma gained_onLoad_iff (steady : engine.Steady) {m : Module} {n : Nat}
    (hok : (interception.onLoad engine m run).1 = .ok n) (key : Key) :
    key ∈ (interception.onLoad engine m run).2.registrations ∧ key ∉ run.registrations ↔
      key.hook = recorderId ∧
        key.pc ∈ (interception.entries engine m).filter (engine.Wrappable run.registrations) := by
  rw [Std.ExtTreeMap.mem_iff_isSome_getElem?, onLoad_getElem?_of_ok steady hok, Finset.mem_filter,
    mem_entries]
  constructor
  · rintro ⟨hafter, hbefore⟩
    rw [(Registrations.not_mem_iff _ _).1 hbefore, Option.none_or] at hafter
    split at hafter
    · rename_i hoffer
      refine ⟨hoffer.1, hafter, hoffer.2, ?_⟩
      rwa [Key.recorder_pc hoffer.1]
    · exact absurd hafter (by simp)
  · rintro ⟨hhook, hentry, hrefuses, hnot⟩
    rw [Key.recorder_pc hhook] at hnot
    rw [(Registrations.not_mem_iff _ _).1 hnot, Option.none_or, if_pos ⟨hhook, hrefuses⟩]
    exact ⟨hentry, hnot⟩

lemma lost_onUnload_iff (steady : engine.Steady) {m : Module} {n : Nat}
    (hok : (interception.onUnload engine m run).1 = .ok n) (key : Key) :
    key ∈ run.registrations ∧ key ∉ (interception.onUnload engine m run).2.registrations ↔
      key.hook = recorderId ∧
        key.pc ∈ (interception.entries engine m).filter (engine.Unwrappable run.registrations) := by
  rw [Registrations.not_mem_iff, onUnload_getElem?_of_ok steady hok, Finset.mem_filter]
  constructor
  · rintro ⟨hbefore, hafter⟩
    split at hafter
    · rename_i hcleared
      obtain ⟨hhook, hrefuses, hentry⟩ := hcleared
      refine ⟨hhook, hentry, hrefuses, ?_⟩
      rwa [Key.recorder_pc hhook]
    · exact absurd hbefore ((Registrations.not_mem_iff _ _).2 hafter)
  · rintro ⟨hhook, hentry, hrefuses, hmem⟩
    rw [Key.recorder_pc hhook] at hmem
    exact ⟨hmem, if_pos ⟨hhook, hrefuses, hentry⟩⟩

/-- With `ignore` an event is answered with the number of keys that it has changed. -/
lemma handle_fst (steady : engine.Steady) (hignore : interception.checks = .ignore)
    (event : ModuleEvent) (run : Run) :
    (interception.handle engine event run).1 =
      .ok (event.change run.registrations
        (interception.handle engine event run).2.registrations) := by
  cases event with
  | load m already =>
    have hok : (interception.onLoad engine m run).1 = .ok _ := onLoad_fst steady (.inl hignore)
    simp only [handle, change]
    rw [hok, Registrations.length_gained (gained_onLoad_iff steady hok)]
  | unload m =>
    have hok : (interception.onUnload engine m run).1 = .ok _ :=
      onUnload_fst steady (.inl hignore)
    simp only [handle, change]
    rw [hok, Registrations.length_gained (lost_onUnload_iff steady hok)]

/-! ## The outcome of a history -/

/-- The events that concern an address: those of modules that have it among their entries. -/
def eventsAt (interception : Interception) (engine : Engine) (events : List ModuleEvent)
    (pc : Address) : List ModuleEvent :=
  events.filter fun event => pc ∈ interception.entries engine event.module

/-- What is under a key after a history, going by the events that concern its address: the initial
registration if there was no unload, or else what the earliest load since the last unload has put
there. -/
def outcome (interception : Interception) (engine : Engine) (initial : Registrations)
    (events : List ModuleEvent) (key : Key) : Option Registration :=
  if key.hook = recorderId then
    (if ∀ event ∈ interception.eventsAt engine events key.pc, event.isLoad
      then initial[key]? else none).or
    (if engine.refusesWrap key.pc = none then
      ((interception.eventsAt engine events key.pc).rtakeWhile isLoad).head?.bind fun load =>
        interception.registrationFor engine load.module key.pc
      else none)
  else initial[key]?

section Steps

variable {initial : Registrations} {events : List ModuleEvent} {event : ModuleEvent} {key : Key}

lemma eventsAt_concat (pc : Address) :
    interception.eventsAt engine (events ++ [event]) pc =
      if pc ∈ interception.entries engine event.module then
        interception.eventsAt engine events pc ++ [event]
      else interception.eventsAt engine events pc := by
  unfold eventsAt
  rw [List.filter_append]
  split <;> rename_i hentry <;> simp [hentry]

lemma isSome_registrationFor_of_mem_eventsAt {pc : Address}
    (h : event ∈ interception.eventsAt engine events pc) :
    (interception.registrationFor engine event.module pc).isSome := by
  rw [← mem_entries]
  simpa using (List.mem_filter.1 h).2

lemma outcome_concat_of_not_mem
    (h : key.hook ≠ recorderId ∨ key.pc ∉ interception.entries engine event.module) :
    interception.outcome engine initial (events ++ [event]) key =
      interception.outcome engine initial events key := by
  unfold outcome
  rcases h with hhook | hentry
  · rw [if_neg hhook, if_neg hhook]
  · rw [eventsAt_concat, if_neg hentry]

lemma outcome_concat_unload (hhook : key.hook = recorderId)
    (hentry : key.pc ∈ interception.entries engine event.module) (hunload : ¬ event.isLoad) :
    interception.outcome engine initial (events ++ [event]) key = none := by
  have hnot : ¬ ∀ other ∈ interception.eventsAt engine events key.pc ++ [event], other.isLoad :=
    fun hall => hunload (hall event (by simp))
  unfold outcome
  rw [if_pos hhook, eventsAt_concat, if_pos hentry, if_neg hnot, Option.none_or,
    List.rtakeWhile_concat_neg _ _ _ hunload, List.head?_nil, Option.bind_none, ite_self]

lemma outcome_concat_load (hhook : key.hook = recorderId)
    (hentry : key.pc ∈ interception.entries engine event.module) (hload : event.isLoad) :
    interception.outcome engine initial (events ++ [event]) key =
      (interception.outcome engine initial events key).or
        (if engine.refusesWrap key.pc = none then
          interception.registrationFor engine event.module key.pc else none) := by
  have hall : (∀ other ∈ interception.eventsAt engine events key.pc ++ [event], other.isLoad) ↔
      ∀ other ∈ interception.eventsAt engine events key.pc, other.isLoad := by
    simp [or_imp, forall_and, hload]
  unfold outcome
  rw [if_pos hhook, if_pos hhook, eventsAt_concat, if_pos hentry, if_congr hall rfl rfl,
    List.rtakeWhile_concat_pos _ _ _ hload, Option.or_assoc]
  congr 1
  by_cases hrefuses : engine.refusesWrap key.pc = none
  · rw [if_pos hrefuses, if_pos hrefuses, if_pos hrefuses, List.head?_append]
    cases hhead : ((interception.eventsAt engine events key.pc).rtakeWhile isLoad).head? with
    | none => simp
    | some earliest =>
      -- It concerns the address, so its registration stands and the new load adds nothing.
      have hmem : earliest ∈ interception.eventsAt engine events key.pc :=
        (List.rtakeWhile_suffix _ _).subset (List.mem_of_head? hhead)
      obtain ⟨registration, hregistration⟩ :=
        Option.isSome_iff_exists.1 (isSome_registrationFor_of_mem_eventsAt hmem)
      simp [hregistration]
  · rw [if_neg hrefuses, if_neg hrefuses, if_neg hrefuses, Option.or_none]

end Steps

/-! ## The session and the rule -/

variable {policy : FailurePolicy} {id : SubscriptionId}

/-- One more event takes the table from one outcome to the next. -/
lemma handle_getElem? (steady : engine.Steady) (hunwraps : ∀ pc, engine.refusesUnwrap pc = none)
    (hignore : interception.checks = .ignore) {initial : Registrations}
    {events : List ModuleEvent} (event : ModuleEvent)
    (h : ∀ key, run.registrations[key]? = interception.outcome engine initial events key)
    (key : Key) :
    (interception.handle engine event run).2.registrations[key]? =
      interception.outcome engine initial (events ++ [event]) key := by
  by_cases hconcerns : key.hook = recorderId ∧ key.pc ∈ interception.entries engine event.module
  · obtain ⟨hhook, hentry⟩ := hconcerns
    cases event with
    | load m already =>
      have hok : (interception.onLoad engine m run).1 = .ok _ := onLoad_fst steady (.inl hignore)
      rw [outcome_concat_load hhook hentry rfl, handle, onLoad_getElem?_of_ok steady hok, h key]
      simp [hhook, ModuleEvent.module]
    | unload m =>
      have hok : (interception.onUnload engine m run).1 = .ok _ :=
        onUnload_fst steady (.inl hignore)
      rw [outcome_concat_unload hhook hentry (by simp [isLoad]), handle,
        onUnload_getElem?_of_ok steady hok, if_pos ⟨hhook, hunwraps key.pc, hentry⟩]
  · have helsewhere := not_and_or.1 hconcerns
    rw [outcome_concat_of_not_mem helsewhere, ← h key]
    cases event with
    | load m already => exact onLoad_getElem?_of_not_mem steady helsewhere
    | unload m =>
      have hok : (interception.onUnload engine m run).1 = .ok _ :=
        onUnload_fst steady (.inl hignore)
      rw [handle, onUnload_getElem?_of_ok steady hok]
      exact if_neg fun hcleared => hconcerns ⟨hcleared.1, hcleared.2.2⟩

lemma follow_concat_of_ignore (steady : engine.Steady) (hignore : interception.checks = .ignore)
    (events : List ModuleEvent) (event : ModuleEvent) :
    interception.follow engine policy id (events ++ [event]) run =
      (interception.handle engine event
        (interception.follow engine policy id events run)).2 := by
  rw [follow_concat]
  rcases hstep : interception.handle engine event
    (interception.follow engine policy id events run) with ⟨answer, after⟩
  -- No event fails, so there is nothing for the session to settle.
  have hok := congrArg Prod.fst hstep
  rw [handle_fst steady hignore] at hok
  obtain rfl := hok
  rfl

lemma follow_getElem? (steady : engine.Steady) (hunwraps : ∀ pc, engine.refusesUnwrap pc = none)
    (hignore : interception.checks = .ignore) (events : List ModuleEvent) (key : Key) :
    (interception.follow engine policy id events run).registrations[key]? =
      interception.outcome engine run.registrations events key := by
  induction events using List.reverseRecOn generalizing key with
  | nil => simp [outcome, eventsAt]
  | append_singleton events event ih =>
    rw [follow_concat_of_ignore steady hignore]
    exact handle_getElem? steady hunwraps hignore event ih key

lemma handle_confined (event : ModuleEvent) (run : Run) :
    Run.Confined run (interception.handle engine event run).2 := by
  cases event with
  | load m already => exact interception.onLoad_confined engine m run
  | unload m => exact interception.onUnload_confined engine m run

lemma follow_confined (steady : engine.Steady) (hignore : interception.checks = .ignore)
    (events : List ModuleEvent) :
    Run.Confined run (interception.follow engine policy id events run) := by
  induction events using List.reverseRecOn with
  | nil => exact .refl run
  | append_singleton events event ih =>
    rw [follow_concat_of_ignore steady hignore]
    exact ih.trans (handle_confined event _)

/-! ## What the rule says -/

section Outcomes

variable {initial : Registrations} {events : List ModuleEvent} {pc : Address}

lemma exists_head?_rtakeWhile {events : List ModuleEvent}
    (h : ∃ event ∈ events.getLast?, event.isLoad) :
    ∃ load ∈ events, (events.rtakeWhile isLoad).head? = some load := by
  obtain ⟨event, hlast, hload⟩ := h
  obtain ⟨front, rfl⟩ := List.getLast?_eq_some_iff.1 hlast
  have hsome : ((front ++ [event]).rtakeWhile isLoad).head?.isSome := by
    rw [List.rtakeWhile_concat_pos _ _ _ hload]
    simp
  obtain ⟨load, hhead⟩ := Option.isSome_iff_exists.1 hsome
  exact ⟨load, (List.rtakeWhile_suffix _ _).subset (List.mem_of_head? hhead), hhead⟩

/-- A registration that no unload has met is still the initial one. -/
lemma outcome_of_initial (h : Key.recorder pc ∈ initial ∧
    ∀ event ∈ interception.eventsAt engine events pc, event.isLoad) :
    interception.outcome engine initial events (Key.recorder pc) =
      initial[Key.recorder pc]? := by
  obtain ⟨registration, hregistration⟩ := (Registrations.mem_iff_exists _ _).1 h.1
  unfold outcome
  rw [if_pos rfl, if_pos h.2, hregistration, Option.some_or]

/-- Without an initial registration, or after an unload, it is the earliest load since that gives
the name. -/
lemma outcome_of_not_initial (hrefuses : engine.refusesWrap pc = none)
    (hlast : ∃ event ∈ (interception.eventsAt engine events pc).getLast?, event.isLoad)
    (hnot : ¬ (Key.recorder pc ∈ initial ∧
      ∀ event ∈ interception.eventsAt engine events pc, event.isLoad)) :
    ∃ load symbol,
      ((interception.eventsAt engine events pc).rtakeWhile isLoad).head? = some load ∧
      engine.exportAt? load.module pc = some symbol ∧
      interception.outcome engine initial events (Key.recorder pc) =
        some ⟨.recorder interception.recorder, symbol.name⟩ := by
  obtain ⟨load, hmem, hhead⟩ := exists_head?_rtakeWhile hlast
  obtain ⟨symbol, hsymbol, hregistration⟩ :=
    registrationFor_of_mem (mem_entries.2 (isSome_registrationFor_of_mem_eventsAt hmem))
  have hinitial : (if ∀ event ∈ interception.eventsAt engine events pc, event.isLoad
      then initial[Key.recorder pc]? else none) = none := by
    split
    · rename_i hall
      exact (Registrations.not_mem_iff _ _).1 fun hpresent => hnot ⟨hpresent, hall⟩
    · rfl
  refine ⟨load, symbol, hhead, hsymbol, ?_⟩
  unfold outcome
  rw [if_pos rfl, if_pos hrefuses, hinitial, Option.none_or, hhead, Option.bind_some,
    hregistration]

/-- The last event decides whether there is a recorder. -/
lemma isSome_outcome (hrefuses : engine.refusesWrap pc = none) :
    (interception.outcome engine initial events (Key.recorder pc)).isSome ↔
      (∃ event ∈ (interception.eventsAt engine events pc).getLast?, event.isLoad) ∨
        interception.eventsAt engine events pc = [] ∧ Key.recorder pc ∈ initial := by
  by_cases hlast : ∃ event ∈ (interception.eventsAt engine events pc).getLast?, event.isLoad
  · rw [iff_true_right (.inl hlast)]
    by_cases hinitial : Key.recorder pc ∈ initial ∧
      ∀ event ∈ interception.eventsAt engine events pc, event.isLoad
    · rw [outcome_of_initial hinitial, ← Std.ExtTreeMap.mem_iff_isSome_getElem?]
      exact hinitial.1
    · obtain ⟨_, _, -, -, houtcome⟩ := outcome_of_not_initial hrefuses hlast hinitial
      simp [houtcome]
  · rw [or_iff_right hlast, Std.ExtTreeMap.mem_iff_isSome_getElem?]
    unfold outcome
    rcases List.eq_nil_or_concat' (interception.eventsAt engine events pc) with
      hnil | ⟨front, last, hconcat⟩
    · simp [hnil]
    · have hunload : ¬ last.isLoad := fun hload => hlast ⟨last, by simp [hconcat], hload⟩
      simp [hconcat, hunload]

end Outcomes

end Interception

/-- What a history has made of a run, address by address.  The events in question are always those
that concern the address, and an address counts as refused if the engine does not wrap it. -/
structure Explained (interception : Interception) (engine : Engine) (events : List ModuleEvent)
    (before after : Run) : Prop where
  /-- No failure is reported. -/
  failures : after.journal.failures = before.journal.failures
  aborted : after.journal.aborted = before.journal.aborted
  /-- The recorder is there if the last event is a load, or if there is none and it was there at
  the beginning. -/
  present : ∀ pc, engine.refusesWrap pc = none →
    (Key.recorder pc ∈ after.registrations ↔
      (∃ event ∈ (interception.eventsAt engine events pc).getLast?, event.isLoad) ∨
        interception.eventsAt engine events pc = [] ∧ Key.recorder pc ∈ before.registrations)
  /-- If it was there and there was no unload, it is the same. -/
  kept : ∀ pc, Key.recorder pc ∈ before.registrations →
    (∀ event ∈ interception.eventsAt engine events pc, event.isLoad) →
      after.registrations[Key.recorder pc]? = before.registrations[Key.recorder pc]?
  /-- Otherwise it has the name that the earliest load since the last unload gives it. -/
  named : ∀ pc, engine.refusesWrap pc = none →
    (∃ event ∈ (interception.eventsAt engine events pc).getLast?, event.isLoad) →
    ¬ (Key.recorder pc ∈ before.registrations ∧
      ∀ event ∈ interception.eventsAt engine events pc, event.isLoad) →
    ∃ load symbol,
      ((interception.eventsAt engine events pc).rtakeWhile isLoad).head? = some load ∧
      engine.exportAt? load.module pc = some symbol ∧
      after.registrations[Key.recorder pc]? =
        some ⟨.recorder interception.recorder, symbol.name⟩
  /-- A refused address is not registered anew. -/
  refused : ∀ pc, engine.refusesWrap pc ≠ none →
    after.registrations[Key.recorder pc]? =
      if ∀ event ∈ interception.eventsAt engine events pc, event.isLoad
      then before.registrations[Key.recorder pc]? else none
  /-- Other hooks stay as they are. -/
  others : ∀ key : Key, key.hook ≠ recorderId →
    after.registrations[key]? = before.registrations[key]?

/-- **What a history makes of the table when refusals are ignored.**  Let an engine be steady,
refuse to wrap some addresses and refuse no unwrapping by itself.  Then every history whatsoever
explains the run after it, and one more event answers the number of keys that it changes. -/
theorem follow_explained (engine : Engine) (interception : Interception) (policy : FailurePolicy)
    (id : SubscriptionId) (run : Run) (events : List ModuleEvent) (steady : engine.Steady)
    (hunwraps : ∀ pc, engine.refusesUnwrap pc = none) (hignore : interception.checks = .ignore) :
    Explained interception engine events run
      (interception.follow engine policy id events run) ∧
    ∀ event,
      (interception.handle engine event (interception.follow engine policy id events run)).1 =
        .ok (event.change (interception.follow engine policy id events run).registrations
          (interception.follow engine policy id (events ++ [event]) run).registrations) := by
  refine ⟨?_, fun event => ?_⟩
  · have hconfined : Run.Confined run (interception.follow engine policy id events run) :=
      Interception.follow_confined steady hignore events
    have htable : ∀ key,
        (interception.follow engine policy id events run).registrations[key]? =
          interception.outcome engine run.registrations events key :=
      Interception.follow_getElem? steady hunwraps hignore events
    constructor
    case failures => exact hconfined.failures_eq
    case aborted => exact hconfined.aborted_eq
    case present =>
      intro pc hrefuses
      rw [Std.ExtTreeMap.mem_iff_isSome_getElem?, htable, Interception.isSome_outcome hrefuses]
    case kept =>
      intro pc hpresent hall
      rw [htable, Interception.outcome_of_initial ⟨hpresent, hall⟩]
    case named =>
      intro pc hrefuses hlast hnot
      rw [htable]
      exact Interception.outcome_of_not_initial hrefuses hlast hnot
    case refused =>
      intro pc hrefuses
      rw [htable, Interception.outcome, if_pos rfl, if_neg hrefuses, Option.or_none]
    case others =>
      intro key hhook
      rw [htable, Interception.outcome, if_neg hhook]
  · rw [Interception.follow_concat_of_ignore steady hignore]
    exact Interception.handle_fst steady hignore event _

/-! ## A history without discipline -/

namespace Undisciplined

def app : Module := ⟨0x1000, 0x2000, some "app", none, 0⟩
def liba : Module := ⟨0x2000, 0x3000, some "liba.so", none, 1⟩
def libb : Module := ⟨0x3000, 0x4000, some "libb.so", none, 2⟩

/-- Two libraries with an entry in common, and an address that is not wrapped. -/
def scenario : Scenario where
  modules := [(app, [⟨"main", 0x1100, .code⟩]),
    (liba, [⟨"open", 0x2100, .code⟩, ⟨"close", 0x2200, .code⟩, ⟨"brk", 0x2300, .code⟩]),
    (libb, [⟨"open_fast", 0x3100, .indirect⟩, ⟨"write", 0x3200, .code⟩])]
  main := some 0
  resolvers := [(0x3100, [.ok 0x2100])]
  wrapRefusals := [(0x2300, "reserved")]
  unwrapRefusals := []
  greeting := []

def session : Interception := ⟨⟨false, some 0x1000⟩, .ignore⟩

/-- Two recorders are there from the beginning. -/
def table : Registrations :=
  ((∅ : Registrations).insert (Key.recorder 0x2100) ⟨.recorder session.recorder, "old_open"⟩).insert
    (Key.recorder 0x3200) ⟨.recorder session.recorder, "old_write"⟩

def initial : Run := { Run.start with registrations := table }

/-- The first library goes without having been loaded, and is then loaded twice after the second. -/
def history : List ModuleEvent :=
  [.unload liba, .load libb false, .load app true, .load liba false, .load liba true]

def after : Run := session.follow scenario.engine .report 0 history initial

end Undisciplined

open Undisciplined in
/-- The entry in common has the name of the library that came first after the unload, an initial
registration without an unload is kept, and the refused address stays free. -/
theorem undisciplined_history_explained :
    after.registrations[Key.recorder 0x2100]? =
        some ⟨.recorder session.recorder, "open_fast"⟩ ∧
      after.registrations[Key.recorder 0x3200]? =
        some ⟨.recorder session.recorder, "old_write"⟩ ∧
      after.registrations[Key.recorder 0x2300]? = none ∧
      (session.handle scenario.engine (.unload libb) after).1 = .ok 2 := by
  obtain ⟨explained, answers⟩ := follow_explained scenario.engine session .report 0 initial history
    (Scenario.engine_steady (by decide)) (fun _ => rfl) rfl
  refine ⟨?_, ?_, ?_, ?_⟩
  · have hlast : (session.eventsAt scenario.engine history 0x2100).getLast? =
        some (.load liba true) := by decide +kernel
    obtain ⟨load, symbol, hhead, hsymbol, htable⟩ := explained.named 0x2100 (by decide +kernel)
      ⟨_, hlast, rfl⟩ (by decide +kernel)
    have hearliest : ((session.eventsAt scenario.engine history 0x2100).rtakeWhile isLoad).head? =
        some (.load libb false) := by decide +kernel
    obtain rfl := Option.some.inj (hhead.symm.trans hearliest)
    have hfirst : scenario.engine.exportAt? libb 0x2100 =
        some ⟨"open_fast", 0x3100, .indirect⟩ := by decide +kernel
    obtain rfl := Option.some.inj (hsymbol.symm.trans hfirst)
    exact htable
  · refine (explained.kept 0x3200 (by decide +kernel) (by decide +kernel)).trans ?_
    decide +kernel
  · refine (explained.refused 0x2300 (by decide +kernel)).trans ?_
    decide +kernel
  · refine (answers (.unload libb)).trans ?_
    decide +kernel

end CallTrace
