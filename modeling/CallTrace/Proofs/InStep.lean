import CallTrace.Proofs.Residency

/-!
# Registrations in step with the loaded modules

As long as modules do not share entries and nobody else refuses requests, the table of registrations
is at every moment the table at the beginning together with one recorder for each entry of a loaded
module, under the name of the first export that resolves there.  `InStep` states this of a table and
a set of loaded modules.

`registrations_in_step` is the statement for whole histories, of any length and in any order in
which the events about each module alternate.  It gives both what the table is after every event and
what every event answers: the number of entries of its module.  No request is refused on the way, so
the mode of checking makes no difference.

The invariant is what keeps the next request from being refused.  A module that is about to load has
entries that no loaded module has, so at its entries the table is still the initial one, which holds
no recorder there; a module that is about to go is loaded, so all its entries carry a recorder.
-/

namespace CallTrace

open ModuleEvent

/-- A table is in step with the loaded modules: their entries carry the recorder under the name of
the first export that resolves there, and every other key is as it was at the beginning. -/
structure InStep (interception : Interception) (engine : Engine) (initial : Registrations)
    (loaded : Module → Prop) (table : Registrations) : Prop where
  wrapped : ∀ m, loaded m → ∀ pc ∈ interception.entries engine m,
    ∃ symbol, engine.exportAt? m pc = some symbol ∧
      table[Key.recorder pc]? = some ⟨.recorder interception.recorder, symbol.name⟩
  unchanged : ∀ key : Key, (∀ m, loaded m → key.hook = recorderId →
    key.pc ∉ interception.entries engine m) → table[key]? = initial[key]?

/-- Modules keep apart in a table: no two of them share an entry, and none of their entries carries
a recorder. -/
structure Apart (interception : Interception) (engine : Engine) (modules : Set Module)
    (table : Registrations) : Prop where
  disjoint : modules.Pairwise fun m n =>
    Disjoint (interception.entries engine m) (interception.entries engine n)
  free : ∀ m ∈ modules, ∀ pc ∈ interception.entries engine m, Key.recorder pc ∉ table

namespace InStep

variable {interception : Interception} {engine : Engine} {policy : FailurePolicy}
  {id : SubscriptionId} {initial : Registrations} {modules : Set Module}
  {events : List ModuleEvent} {run : Run} {m : Module}

lemma nil : InStep interception engine initial (Loaded []) initial where
  wrapped m hm := absurd hm (not_loaded_nil m)
  unchanged _ _ := rfl

/-- The entries of a module that is not loaded can be wrapped. -/
lemma wrappable (h : InStep interception engine initial (Loaded events) run.registrations)
    (obliging : engine.Obliging) (apart : Apart interception engine modules initial)
    (hmodules : ∀ event ∈ events, event.module ∈ modules) (hm : m ∈ modules)
    (hnot : ¬ Loaded events m) :
    ∀ pc ∈ interception.entries engine m, engine.Wrappable run.registrations pc := by
  intro pc hpc
  -- No loaded module has the entry, so the table is the initial one there.
  have hothers : ∀ n, Loaded events n → (Key.recorder pc).hook = recorderId →
      (Key.recorder pc).pc ∉ interception.entries engine n := by
    intro n hn _ hmem
    obtain ⟨event, hevent, rfl⟩ := exists_mem_of_loaded hn
    have hne : m ≠ event.module := by
      rintro rfl
      exact hnot hn
    exact Finset.disjoint_left.1 (apart.disjoint hm (hmodules event hevent) hne) hpc hmem
  refine ⟨obliging.wraps pc, ?_⟩
  rw [Registrations.not_mem_iff, h.unchanged _ hothers, ← Registrations.not_mem_iff]
  exact apart.free m hm pc hpc

/-- The entries of a loaded module can be unwrapped. -/
lemma unwrappable (h : InStep interception engine initial (Loaded events) run.registrations)
    (obliging : engine.Obliging) (hloaded : Loaded events m) :
    ∀ pc ∈ interception.entries engine m, engine.Unwrappable run.registrations pc := by
  intro pc hpc
  obtain ⟨symbol, -, htable⟩ := h.wrapped m hloaded pc hpc
  exact ⟨obliging.unwraps pc, (Registrations.mem_iff_exists _ _).2 ⟨_, htable⟩⟩

/-- A load of a module whose entries can be wrapped keeps the table in step. -/
lemma load (h : InStep interception engine initial (Loaded events) run.registrations)
    (steady : engine.Steady) (already : Bool)
    (hwrappable : ∀ pc ∈ interception.entries engine m,
      engine.Wrappable run.registrations pc) :
    InStep interception engine initial (Loaded (events ++ [.load m already]))
      (interception.onLoad engine m run).2.registrations := by
  have htable := Interception.onLoad_getElem?_of_ok steady
    (Interception.onLoad_fst steady (.inr hwrappable))
  constructor
  · intro n hn pc hpc
    rw [loaded_concat] at hn
    rw [htable]
    by_cases heq : m = n
    · subst heq
      obtain ⟨hrefuses, hnot⟩ := hwrappable pc hpc
      obtain ⟨symbol, hsymbol, hregistration⟩ := Interception.registrationFor_of_mem hpc
      refine ⟨symbol, hsymbol, ?_⟩
      rw [(Registrations.not_mem_iff _ _).1 hnot, Option.none_or, if_pos ⟨rfl, hrefuses⟩,
        hregistration]
    · obtain ⟨symbol, hsymbol, hbefore⟩ := h.wrapped n (by simpa [ModuleEvent.module, heq] using hn)
        pc hpc
      exact ⟨symbol, hsymbol, by rw [hbefore, Option.some_or]⟩
  · intro key hkey
    have hothers : ∀ n, Loaded events n → key.hook = recorderId →
        key.pc ∉ interception.entries engine n := by
      intro n hn
      apply hkey
      rw [loaded_concat]
      split
      · rfl
      · exact hn
    have hself : key.hook = recorderId → key.pc ∉ interception.entries engine m :=
      hkey m (by rw [loaded_concat]; exact if_pos rfl ▸ rfl)
    rw [htable, h.unchanged key hothers]
    split
    · rename_i hoffer
      rw [Interception.registrationFor_eq_none (hself hoffer.1), Option.or_none]
    · exact Option.or_none

/-- An unload of a module whose entries can be unwrapped keeps the table in step. -/
lemma unload (h : InStep interception engine initial (Loaded events) run.registrations)
    (steady : engine.Steady)
    (apart : Apart interception engine modules initial)
    (hmodules : ∀ event ∈ events, event.module ∈ modules) (hm : m ∈ modules)
    (hunwrappable : ∀ pc ∈ interception.entries engine m,
      engine.Unwrappable run.registrations pc) :
    InStep interception engine initial (Loaded (events ++ [.unload m]))
      (interception.onUnload engine m run).2.registrations := by
  have htable := Interception.onUnload_getElem?_of_ok steady
    (Interception.onUnload_fst steady (.inr hunwrappable))
  constructor
  · intro n hn pc hpc
    rw [loaded_concat] at hn
    have hne : n ≠ m := by
      rintro rfl
      simp [ModuleEvent.module, isLoad] at hn
    have hloaded : Loaded events n := by simpa [ModuleEvent.module, hne.symm] using hn
    obtain ⟨event, hevent, rfl⟩ := exists_mem_of_loaded hloaded
    have hnot : pc ∉ interception.entries engine m :=
      Finset.disjoint_left.1 (apart.disjoint (hmodules event hevent) hm hne) hpc
    rw [htable, if_neg (fun hcleared => hnot hcleared.2.2)]
    exact h.wrapped _ hloaded pc hpc
  · intro key hkey
    rw [htable]
    split
    · -- What has been taken out was not there at the beginning either.
      rename_i hcleared
      obtain ⟨hhook, -, hpc⟩ := hcleared
      obtain ⟨pc, _⟩ := key
      obtain rfl : _ = recorderId := hhook
      exact ((Registrations.not_mem_iff _ _).1 (apart.free m hm pc hpc)).symm
    · rename_i hkept
      refine h.unchanged key fun n hn hhook hpc => ?_
      by_cases heq : m = n
      · subst heq
        exact hkept ⟨hhook, (hunwrappable _ hpc).1, hpc⟩
      · refine hkey n ?_ hhook hpc
        rw [loaded_concat]
        exact (if_neg heq).mpr hn

end InStep

/-! ## Whole histories -/

section Histories

variable {interception : Interception} {engine : Engine} {policy : FailurePolicy}
  {id : SubscriptionId} {run : Run} {modules : Set Module}

/-- One more event: if the table is in step, the event answers the number of entries of its module,
and the table is in step again. -/
lemma inStep_handle (steady : engine.Steady) (obliging : engine.Obliging)
    {initial : Registrations}
    (apart : Apart interception engine modules initial)
    {events : List ModuleEvent} {event : ModuleEvent}
    (hmodules : ∀ event ∈ events, event.module ∈ modules) (hm : event.module ∈ modules)
    (halternating : Alternating (events ++ [event]))
    (h : InStep interception engine initial (Loaded events) run.registrations) :
    (interception.handle engine event run).1 =
        .ok (interception.entries engine event.module).card ∧
      InStep interception engine initial (Loaded (events ++ [event]))
        (interception.handle engine event run).2.registrations := by
  have hchange := (alternating_concat.1 halternating).2
  cases event with
  | load m already =>
    have hwrappable : ∀ pc ∈ interception.entries engine m,
        engine.Wrappable run.registrations pc :=
      h.wrappable obliging apart hmodules hm (hchange.1 rfl)
    refine ⟨?_, h.load steady already hwrappable⟩
    rw [Interception.handle, Interception.onLoad_fst steady (.inr hwrappable),
      Finset.filter_true_of_mem hwrappable]
    rfl
  | unload m =>
    have hloaded : Loaded events m := by
      by_contra hnot
      exact absurd (hchange.2 hnot) (by simp [isLoad])
    have hunwrappable := h.unwrappable obliging hloaded
    refine ⟨?_, h.unload steady apart hmodules hm hunwrappable⟩
    rw [Interception.handle, Interception.onUnload_fst steady (.inr hunwrappable),
      Finset.filter_true_of_mem hunwrappable]
    rfl

lemma inStep_follow (steady : engine.Steady) (obliging : engine.Obliging)
    (apart : Apart interception engine modules run.registrations)
    {events : List ModuleEvent} (hmodules : ∀ event ∈ events, event.module ∈ modules)
    (halternating : Alternating events) :
    InStep interception engine run.registrations (Loaded events)
      (interception.follow engine policy id events run).registrations := by
  induction events using List.reverseRecOn with
  | nil => exact .nil
  | append_singleton events event ih =>
    have hbefore : ∀ event ∈ events, event.module ∈ modules :=
      fun other hother => hmodules other (List.mem_append_left _ hother)
    rw [Interception.follow_concat, Run.settle_registrations]
    exact (inStep_handle steady obliging apart hbefore (hmodules event (by simp))
      halternating (ih hbefore (alternating_concat.1 halternating).1)).2

end Histories

/-- **Registrations are in step with the loaded modules.**  Let an engine be steady and refuse
nothing by itself, and let modules keep apart in the table at the beginning.  Then along every
alternating history of these modules each event answers the number of entries of its module, and
after each event the table is in step. -/
theorem registrations_in_step (engine : Engine) (interception : Interception)
    (policy : FailurePolicy) (id : SubscriptionId) (run : Run) (modules : Set Module)
    (events : List ModuleEvent) (steady : engine.Steady)
    (obliging : engine.Obliging)
    (apart : Apart interception engine modules run.registrations)
    (hmodules : ∀ event ∈ events, event.module ∈ modules) (halternating : Alternating events) :
    (∀ before event, before ++ [event] <+: events →
      (interception.handle engine event (interception.follow engine policy id before run)).1 =
        .ok (interception.entries engine event.module).card) ∧
    ∀ before, before <+: events →
      InStep interception engine run.registrations (Loaded before)
        (interception.follow engine policy id before run).registrations := by
  have hinStep : ∀ before, before <+: events →
      InStep interception engine run.registrations (Loaded before)
        (interception.follow engine policy id before run).registrations := by
    intro before hbefore
    exact inStep_follow steady obliging apart
      (fun event hevent => hmodules event (hbefore.subset hevent))
      (halternating.of_prefix hbefore)
  refine ⟨?_, hinStep⟩
  intro before event hmore
  have hbefore : before <+: events := (List.prefix_append before [event]).trans hmore
  exact (inStep_handle steady obliging apart
    (fun other hother => hmodules other (hbefore.subset hother))
    (hmodules event (hmore.subset (by simp))) (halternating.of_prefix hmore)
    (hinStep before hbefore)).1

/-! ## Two libraries -/

namespace TwoLibraries

def app : Module := ⟨0x1000, 0x2000, some "app", none, 0⟩
def libc : Module := ⟨0x2000, 0x3000, some "libc.so", none, 1⟩
def libm : Module := ⟨0x3000, 0x4000, some "libm.so", none, 2⟩

/-- An application with two libraries; the first has an alias, data, a resolver that works, one that
faults and one that answers null. -/
def scenario : Scenario where
  modules := [(app, [⟨"main", 0x1100, .code⟩]),
    (libc, [⟨"open", 0x2100, .code⟩, ⟨"open64", 0x2100, .both⟩, ⟨"memcpy", 0x2200, .indirect⟩,
      ⟨"strlen", 0x2300, .indirect⟩, ⟨"strchr", 0x2400, .indirect⟩, ⟨"environ", 0x2500, .data⟩]),
    (libm, [⟨"sqrt", 0x3100, .code⟩])]
  main := some 0
  resolvers := [(0x2200, [.ok 0x2600]), (0x2400, [.ok 0])]
  wrapRefusals := []
  unwrapRefusals := []
  greeting := []

def session : Interception := ⟨⟨false, some 0x1000⟩, .abort⟩

def history : List ModuleEvent :=
  [.load app true, .load libc true, .load libm false, .unload libc]

/-- The run after the first events of the history. -/
def after (n : Nat) : Run :=
  session.follow scenario.engine .report 0 (history.take n) .start

end TwoLibraries

open TwoLibraries in
/-- Of the six exports of the first library two entries are wrapped, the one with two names under
the first of them; they go with the library, and the second library keeps its own. -/
theorem registrations_of_two_libraries :
    (session.handle scenario.engine (.load libc true) (after 1)).1 = .ok 2 ∧
      (after 2).registrations[Key.recorder 0x2100]? =
        some ⟨.recorder session.recorder, "open"⟩ ∧
      (after 4).registrations[Key.recorder 0x2100]? = none ∧
      (after 4).registrations[Key.recorder 0x3100]? =
        some ⟨.recorder session.recorder, "sqrt"⟩ := by
  have apart : ∀ m ∈ [app, libc, libm], ∀ n ∈ [app, libc, libm], m ≠ n →
      Disjoint (session.entries scenario.engine m) (session.entries scenario.engine n) := by
    decide +kernel
  obtain ⟨answers, tables⟩ := registrations_in_step scenario.engine session .report 0 .start
    {m | m ∈ [app, libc, libm]} history (Scenario.engine_steady (by decide))
    ⟨fun _ => rfl, fun _ => rfl⟩
    ⟨fun m hm n hn => apart m hm n hn, by simp [Run.start]⟩
    (by decide) (by decide)
  refine ⟨?_, ?_, ?_, ?_⟩
  · rw [after, answers (history.take 1) (.load libc true) (by decide)]
    decide +kernel
  · obtain ⟨symbol, hsymbol, htable⟩ := (tables (history.take 2) (by decide)).wrapped libc
      (by decide) 0x2100 (by decide +kernel)
    have hfirst : scenario.engine.exportAt? libc 0x2100 = some ⟨"open", 0x2100, .code⟩ := by
      decide +kernel
    obtain rfl := Option.some.inj (hsymbol.symm.trans hfirst)
    exact htable
  · have gone : ∀ event ∈ history, Loaded (history.take 4) event.module →
        0x2100 ∉ session.entries scenario.engine event.module := by decide +kernel
    refine ((tables (history.take 4) (by decide)).unchanged (Key.recorder 0x2100) ?_).trans rfl
    intro m hm _
    obtain ⟨event, hevent, rfl⟩ := exists_mem_of_loaded hm
    exact gone event hevent hm
  · obtain ⟨symbol, hsymbol, htable⟩ := (tables (history.take 4) (by decide)).wrapped libm
      (by decide) 0x3100 (by decide +kernel)
    have hfirst : scenario.engine.exportAt? libm 0x3100 = some ⟨"sqrt", 0x3100, .code⟩ := by
      decide +kernel
    obtain rfl := Option.some.inj (hsymbol.symm.trans hfirst)
    exact htable

end CallTrace
