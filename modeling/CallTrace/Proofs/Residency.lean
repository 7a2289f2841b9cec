import Mathlib.Data.List.Chain
import CallTrace.Proofs.Loading
import CallTrace.Session

/-!
# Histories of module events

A history is a list of loads and unloads, the oldest first.  This file says what a session makes of
a history (`Interception.follow`) and which modules it leaves loaded (`Loaded`).

An engine reports a module as loaded when it appears and as unloaded when it goes, so that the
events about one module alternate, whatever happens to the others in between (`Alternating`).  A
history is read from its end: one more event goes with an alternating history if it changes whether
its module is loaded (`alternating_concat`).
-/

namespace CallTrace

/-- A module appears, with a flag that tells whether it was there before, or it goes. -/
inductive ModuleEvent where
  | load (m : Module) (already : Bool)
  | unload (m : Module)
deriving DecidableEq, Repr

namespace ModuleEvent

/-- The module that an event is about. -/
def module : ModuleEvent → Module
  | load m _ => m
  | unload m => m

/-- Whether the module of an event is there afterwards. -/
def isLoad : ModuleEvent → Bool
  | load _ _ => true
  | unload _ => false

/-- The engine's report of an event. -/
def report : ModuleEvent → Lifecycle
  | load m already => .loaded m already
  | unload m => .unloaded m

/-! ## Loaded modules -/

/-- The events about one module, as what they make of it. -/
def fates (events : List ModuleEvent) (m : Module) : List Bool :=
  (events.filter (·.module = m)).map isLoad

/-- A module is loaded after a history: the last event about it is a load. -/
def Loaded (events : List ModuleEvent) (m : Module) : Prop :=
  (fates events m).getLast?.getD false = true

/-- The events about each module alternate, and the first one is a load. -/
def Alternating (events : List ModuleEvent) : Prop :=
  ∀ m, (false :: fates events m).IsChain (· ≠ ·)

instance (events : List ModuleEvent) (m : Module) : Decidable (Loaded events m) :=
  inferInstanceAs (Decidable (_ = true))

/-- Only the modules that a history mentions have to be looked at. -/
lemma alternating_iff_forall_mem {events : List ModuleEvent} :
    Alternating events ↔
      ∀ event ∈ events, (false :: fates events event.module).IsChain (· ≠ ·) := by
  refine ⟨fun h event _ => h event.module, fun h m => ?_⟩
  by_cases hm : ∃ event ∈ events, event.module = m
  · obtain ⟨event, hevent, rfl⟩ := hm
    exact h event hevent
  · have hnone : fates events m = [] := by
      rw [fates, List.map_eq_nil_iff, List.filter_eq_nil_iff]
      intro event hevent heq
      exact hm ⟨event, hevent, by simpa using heq⟩
    rw [hnone]
    exact List.isChain_singleton false

instance (events : List ModuleEvent) : Decidable (Alternating events) :=
  decidable_of_iff _ alternating_iff_forall_mem.symm

lemma fates_concat (events : List ModuleEvent) (event : ModuleEvent) (m : Module) :
    fates (events ++ [event]) m =
      if event.module = m then fates events m ++ [event.isLoad] else fates events m := by
  by_cases h : event.module = m <;> simp [fates, List.filter_append, h]

lemma not_loaded_nil (m : Module) : ¬ Loaded [] m := by simp [Loaded, fates]

lemma loaded_concat {events : List ModuleEvent} {event : ModuleEvent} {m : Module} :
    Loaded (events ++ [event]) m ↔
      if event.module = m then event.isLoad = true else Loaded events m := by
  unfold Loaded
  rw [fates_concat]
  split <;> simp

lemma exists_mem_of_loaded {events : List ModuleEvent} {m : Module} (h : Loaded events m) :
    ∃ event ∈ events, event.module = m := by
  induction events using List.reverseRecOn with
  | nil => exact absurd h (not_loaded_nil m)
  | append_singleton events event ih =>
    by_cases heq : event.module = m
    · exact ⟨event, by simp, heq⟩
    · rw [loaded_concat, if_neg heq] at h
      obtain ⟨other, hother, hm⟩ := ih h
      exact ⟨other, List.mem_append_left _ hother, hm⟩

/-! ## Alternation -/

lemma isChain_fates_concat {fates : List Bool} {fate : Bool} :
    (false :: (fates ++ [fate])).IsChain (· ≠ ·) ↔
      (false :: fates).IsChain (· ≠ ·) ∧ fates.getLast?.getD false ≠ fate := by
  rw [← List.cons_append, List.isChain_append, List.getLast?_cons]
  simp

/-- One more event goes with an alternating history if it changes whether its module is loaded. -/
lemma alternating_concat {events : List ModuleEvent} {event : ModuleEvent} :
    Alternating (events ++ [event]) ↔
      Alternating events ∧ (event.isLoad = true ↔ ¬ Loaded events event.module) := by
  have hfate : (fates events event.module).getLast?.getD false ≠ event.isLoad ↔
      (event.isLoad = true ↔ ¬ Loaded events event.module) := by
    unfold Loaded
    cases event.isLoad <;> simp
  rw [← hfate]
  constructor
  · intro h
    refine ⟨fun m => ?_, ?_⟩
    · have hm := h m
      rw [fates_concat] at hm
      split at hm
      · exact (isChain_fates_concat.1 hm).1
      · exact hm
    · have hm := h event.module
      rw [fates_concat, if_pos rfl] at hm
      exact (isChain_fates_concat.1 hm).2
  · rintro ⟨h, hne⟩ m
    rw [fates_concat]
    split
    · rename_i heq
      subst heq
      exact isChain_fates_concat.2 ⟨h _, hne⟩
    · exact h m

/-- A history alternates up to every point of it. -/
lemma Alternating.of_prefix {before events : List ModuleEvent} (h : Alternating events)
    (hbefore : before <+: events) : Alternating before := by
  obtain ⟨after, rfl⟩ := hbefore
  induction after using List.reverseRecOn with
  | nil => simpa using h
  | append_singleton after event ih =>
    rw [← List.append_assoc, alternating_concat] at h
    exact ih h.1

end ModuleEvent

/-! ## What a session makes of a history -/

namespace Interception

/-- What is done about an event, with the answer. -/
def handle (interception : Interception) (engine : Engine) (event : ModuleEvent) (run : Run) :
    Except InterceptError Nat × Run :=
  match event with
  | .load m _ => interception.onLoad engine m run
  | .unload m => interception.onUnload engine m run

/-- The run after a session has received the reports of a history. -/
def follow (interception : Interception) (engine : Engine) (policy : FailurePolicy)
    (id : SubscriptionId) (events : List ModuleEvent) (run : Run) : Run :=
  run.receiveAll engine (events.map ModuleEvent.report) (id, .session interception policy)

variable {interception : Interception} {engine : Engine} {policy : FailurePolicy}
  {id : SubscriptionId} {run : Run}

@[simp] lemma follow_nil : interception.follow engine policy id [] run = run := rfl

/-- A session deals with the last event of a history after all others, and with its failure. -/
lemma follow_concat (events : List ModuleEvent) (event : ModuleEvent) :
    interception.follow engine policy id (events ++ [event]) run =
      Run.settle policy id
        (interception.handle engine event (interception.follow engine policy id events run)) := by
  simp only [follow, Run.receiveAll, List.map_append, List.map_cons, List.map_nil,
    List.foldl_append, List.foldl_cons, List.foldl_nil]
  cases event <;> rfl

end Interception

/-- Reporting a failure leaves the table alone. -/
@[simp] lemma Run.settle_registrations (policy : FailurePolicy) (id : SubscriptionId)
    (outcome : Except InterceptError Nat × Run) :
    (Run.settle policy id outcome).registrations = outcome.2.registrations := by
  obtain ⟨answer, after⟩ := outcome
  cases answer with
  | ok _ => rfl
  | error cause => cases policy <;> rfl

/-- Settling an outcome changes nothing but the journal. -/
lemma Run.exists_settle_eq (policy : FailurePolicy) (id : SubscriptionId)
    (outcome : Except InterceptError Nat × Run) :
    ∃ journal, Run.settle policy id outcome = { outcome.2 with journal := journal } := by
  obtain ⟨answer, after⟩ := outcome
  cases answer with
  | ok _ => exact ⟨after.journal, rfl⟩
  | error cause => cases policy <;> exact ⟨_, rfl⟩

end CallTrace
