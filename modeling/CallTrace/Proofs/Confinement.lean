import Mathlib.Tactic.Lemma
import CallTrace.Session

/-!
# What work on registrations leaves alone

Loading and unloading modules is work on the table of registrations.  Besides the table it counts
resolver calls and writes the journal, and it touches nothing else: who observes the engine, which
subscriptions are held, and the flags of wrapping stay as they are.  `Run.Confined` says this of
two runs, and every step of the work satisfies it, whatever the engine answers and whether the work
succeeds or not.

What the journal gains is notices and requests about resolvers and registrations.  So the work
itself reports no failure and does not abort the process (`Confined.failures_eq`,
`Confined.aborted_eq`): both are left to the session that asked for it.

The last section is about all that an observer receives, work or not: what every receipt keeps is
kept when the engine delivers its reports.
-/

namespace CallTrace

/-- Whether an entry of the journal belongs to work on registrations. -/
def Effect.isWork : Effect → Bool
  | .request (.unsubscribe _ _) => false
  | .request _ | .notice _ => true
  | .line _ | .ran _ _ | .failure _ _ | .seen _ _ | .abort => false

namespace Run

/-- `after` has come from `before` by work on registrations alone. -/
structure Confined (before after : Run) : Prop where
  observers : after.observers = before.observers
  nextSubscription : after.nextSubscription = before.nextSubscription
  held : after.held = before.held
  flags : after.flags = before.flags
  journal : ∃ work : List Effect, after.journal.toList = before.journal.toList ++ work ∧
    ∀ effect ∈ work, effect.isWork

namespace Confined

variable {first second third : Run}

lemma refl (run : Run) : Confined run run :=
  ⟨rfl, rfl, rfl, rfl, [], by simp, by simp⟩

lemma trans (h : Confined first second) (h' : Confined second third) : Confined first third := by
  obtain ⟨work, hwork, hall⟩ := h.journal
  obtain ⟨more, hmore, hall'⟩ := h'.journal
  refine ⟨h'.observers.trans h.observers, h'.nextSubscription.trans h.nextSubscription,
    h'.held.trans h.held, h'.flags.trans h.flags, work ++ more, ?_, ?_⟩
  · rw [hmore, hwork, List.append_assoc]
  · intro effect hmem
    rcases List.mem_append.1 hmem with hmem | hmem
    · exact hall effect hmem
    · exact hall' effect hmem

/-- A run that differs in the table and the resolver calls, with one piece of work entered. -/
lemma enter_work (run : Run) (table : Registrations) (calls : List Address) {effect : Effect}
    (h : effect.isWork) :
    Confined run ({ run with registrations := table, resolverCalls := calls }.enter effect) :=
  ⟨rfl, rfl, rfl, rfl, [effect], by simp [enter], by simpa using h⟩

lemma note (run : Run) (notice : Notice) : Confined run (run.note notice) :=
  enter_work run run.registrations run.resolverCalls rfl

/-- A view of the journal that shows no work is the same before and after it. -/
lemma filterMap_eq {α : Type} (h : Confined first second) (view : Effect → Option α)
    (hview : ∀ effect, effect.isWork → view effect = none) :
    second.journal.toList.filterMap view = first.journal.toList.filterMap view := by
  obtain ⟨work, hwork, hall⟩ := h.journal
  have hnone : work.filterMap view = [] :=
    List.filterMap_eq_nil_iff.2 fun effect hmem => hview effect (hall effect hmem)
  rw [hwork, List.filterMap_append, hnone, List.append_nil]

/-- Work reports no failure. -/
lemma failures_eq (h : Confined first second) :
    second.journal.failures = first.journal.failures := by
  refine h.filterMap_eq _ fun effect hwork => ?_
  cases effect <;> simp_all [Effect.isWork]

/-- Work does not abort the process. -/
lemma aborted_eq (h : Confined first second) :
    second.journal.aborted = first.journal.aborted := by
  obtain ⟨work, hwork, hall⟩ := h.journal
  have hnone : Effect.abort ∉ work := fun hmem => by simpa [Effect.isWork] using hall _ hmem
  rw [Bool.eq_iff_iff, Journal.aborted, Journal.aborted, Array.contains_iff_mem,
    Array.contains_iff_mem, ← Array.mem_toList_iff, ← Array.mem_toList_iff, hwork,
    List.mem_append]
  exact or_iff_left hnone

end Confined

end Run

open Run

/-! ## Requests and enumeration -/

namespace Engine

variable (engine : Engine)

lemma listExports_confined (m : Module) (run : Run) :
    Confined run (engine.listExports m run).2 := by
  unfold listExports
  split
  · exact .refl run
  · exact .note run _

lemma resolve_confined (resolver : Address) (run : Run) :
    Confined run (engine.resolve resolver run).2 :=
  .enter_work run run.registrations _ rfl

lemma resolveIndirect_confined (symbol : Export) (run : Run) :
    Confined run (engine.resolveIndirect symbol run).2 := by
  have hcall := engine.resolve_confined symbol.addr run
  unfold resolveIndirect
  split <;> rename_i heq <;> rw [heq] at hcall
  · exact hcall.trans (.note _ _)
  · exact (hcall.trans (.note _ _)).trans (.note _ _)

lemma resolveEntry_confined (symbol : Export) (run : Run) :
    Confined run (engine.resolveEntry symbol run).2 := by
  unfold resolveEntry
  split
  · exact .refl run
  · exact .refl run
  · exact .refl run
  · exact engine.resolveIndirect_confined symbol run

lemma enumerateTable_confined (seen : List Address) (table : List Export) (run : Run) :
    Confined run (engine.enumerateTable seen table run).2 := by
  induction table generalizing seen run with
  | nil => exact .refl run
  | cons symbol rest ih =>
    have hentry := engine.resolveEntry_confined symbol run
    simp only [enumerateTable]
    split <;> rename_i heq <;> rw [heq] at hentry
    · exact hentry.trans (ih _ _)
    · split
      · exact hentry.trans ((Confined.note _ _).trans (ih _ _))
      · exact hentry.trans (ih _ _)

lemma enumerate_confined (m : Module) (run : Run) :
    Confined run (engine.enumerate m run).2 :=
  (engine.listExports_confined m run).trans (engine.enumerateTable_confined _ _ _)

lemma wrap_confined (pc : Address) (hook : Hook) (data : String) (run : Run) :
    Confined run (engine.wrap pc hook data run).2 := by
  simp only [wrap]
  split
  · exact .enter_work run run.registrations run.resolverCalls rfl
  · exact .enter_work run _ run.resolverCalls rfl

lemma unwrap_confined (pc : Address) (hook : HookId) (run : Run) :
    Confined run (engine.unwrap pc hook run).2 := by
  simp only [unwrap]
  split
  · exact .enter_work run run.registrations run.resolverCalls rfl
  · exact .enter_work run _ run.resolverCalls rfl

end Engine

/-! ## Loads and unloads -/

namespace Interception

variable (interception : Interception) (engine : Engine) (m : Module)

lemma rollBack_confined (installed : List Address) (run : Run) :
    Confined run (rollBack engine m installed run) := by
  refine Confined.trans ?_ (.note _ _)
  induction installed generalizing run with
  | nil => exact .refl run
  | cons pc rest ih =>
    have hunwrap := engine.unwrap_confined pc recorderId run
    rw [List.foldl_cons]
    split <;> rename_i heq <;> rw [heq] at hunwrap
    · exact hunwrap.trans (ih _)
    · exact (hunwrap.trans (.note _ _)).trans (ih _)

lemma wrapAll_confined (installed : List Address) (symbols : List ResolvedExport) (run : Run) :
    Confined run (interception.wrapAll engine m installed symbols run).2 := by
  induction symbols generalizing installed run with
  | nil => exact .note run _
  | cons symbol rest ih =>
    have hwrap := engine.wrap_confined symbol.entry (.recorder interception.recorder)
      symbol.name run
    simp only [wrapAll]
    split <;> rename_i heq <;> rw [heq] at hwrap
    · exact hwrap.trans ((Confined.note _ _).trans (ih _ _))
    · cases interception.checks with
      | abort => exact hwrap.trans (rollBack_confined engine m installed _)
      | ignore => exact hwrap.trans ((Confined.note _ _).trans (ih _ _))

lemma unwrapAll_confined (removed : Nat) (symbols : List ResolvedExport) (run : Run) :
    Confined run (interception.unwrapAll engine m removed symbols run).2 := by
  induction symbols generalizing removed run with
  | nil => exact .note run _
  | cons symbol rest ih =>
    have hunwrap := engine.unwrap_confined symbol.entry recorderId run
    simp only [unwrapAll]
    split <;> rename_i heq <;> rw [heq] at hunwrap
    · exact hunwrap.trans (ih _ _)
    · cases interception.checks with
      | abort => exact hunwrap
      | ignore => exact hunwrap.trans ((Confined.note _ _).trans (ih _ _))

lemma onLoad_confined (run : Run) : Confined run (interception.onLoad engine m run).2 := by
  unfold onLoad
  split
  · exact .note run _
  · exact (engine.enumerate_confined m run).trans (interception.wrapAll_confined engine m _ _ _)

lemma onUnload_confined (run : Run) : Confined run (interception.onUnload engine m run).2 := by
  unfold onUnload
  split
  · exact .refl run
  · exact (engine.enumerate_confined m run).trans
      (interception.unwrapAll_confined engine m _ _ _)

end Interception

/-! ## Deliveries -/

namespace Run

variable {engine : Engine} {events : List Lifecycle} {run : Run} (keeps : Run → Prop)

lemma receiveAll_of_receive {subscriber : SubscriptionId × Observer}
    (hreceive : ∀ event ∈ events, ∀ after, keeps after →
      keeps (subscriber.2.receive engine subscriber.1 event after))
    (h : keeps run) : keeps (run.receiveAll engine events subscriber) :=
  List.foldlRecOn _ _ h fun after hafter event hevent => hreceive event hevent after hafter

lemma deliver_of_receive
    (hreceive : ∀ subscriber ∈ run.observers, ∀ event ∈ events, ∀ after, keeps after →
      keeps (subscriber.2.receive engine subscriber.1 event after))
    (h : keeps run) : keeps (run.deliver engine events) :=
  List.foldlRecOn _ _ h fun _ hbefore subscriber hsubscriber =>
    receiveAll_of_receive keeps (hreceive subscriber hsubscriber) hbefore

end Run

end CallTrace
