import Mathlib.Data.List.TakeWhile
import CallTrace.Proofs.Wrapping

/-!
# Loads and unloads under a steady engine

With a steady engine a load or an unload of a module is determined by the module's `entries`: those
of its export table, and none for the main executable, which is left alone.  What a load puts at an
entry carries the name of the first export that resolves there (`registrationFor`).

Both count what they have done: a load that succeeds answers how many entries could be wrapped, an
unload how many could be unwrapped (`onLoad_fst`, `onUnload_fst`).
-/

namespace CallTrace.Interception

variable {interception : Interception} {engine : Engine} {m : Module} {run : Run}

/-! ## The entries of a module -/

/-- The addresses at which a session wraps a module. -/
def entries (interception : Interception) (engine : Engine) (m : Module) : Finset Address :=
  if interception.isMainExecutable m then ∅ else engine.entries m

/-- What a session puts at an address on behalf of a module: the recorder, with the name of the
first export that resolves there. -/
def registrationFor (interception : Interception) (engine : Engine) (m : Module) (pc : Address) :
    Option Registration :=
  if interception.isMainExecutable m then none
  else (engine.exportAt? m pc).map fun symbol => ⟨.recorder interception.recorder, symbol.name⟩

lemma mem_entries {pc : Address} :
    pc ∈ interception.entries engine m ↔
      (interception.registrationFor engine m pc).isSome := by
  unfold entries registrationFor
  split
  · simp
  · rw [Option.isSome_map, Engine.mem_entries]

/-- An entry is registered under the name of the first export that resolves there. -/
lemma registrationFor_of_mem {pc : Address} (h : pc ∈ interception.entries engine m) :
    ∃ symbol, engine.exportAt? m pc = some symbol ∧
      interception.registrationFor engine m pc =
        some ⟨.recorder interception.recorder, symbol.name⟩ := by
  rw [mem_entries, Option.isSome_iff_exists] at h
  obtain ⟨registration, hregistration⟩ := h
  unfold registrationFor at hregistration ⊢
  split at hregistration
  · exact absurd hregistration (by simp)
  · rename_i hmain
    obtain ⟨symbol, hsymbol, -⟩ := Option.map_eq_some_iff.1 hregistration
    exact ⟨symbol, hsymbol, by rw [if_neg hmain, hsymbol, Option.map_some]⟩

lemma registrationFor_eq_none {pc : Address} (h : pc ∉ interception.entries engine m) :
    interception.registrationFor engine m pc = none := by
  rw [mem_entries, Bool.not_eq_true, Option.isSome_eq_false_iff, Option.isNone_iff_eq_none] at h
  exact h

/-- What an enumeration offers is what the module is registered with. -/
lemma offer_enumerate (steady : engine.Steady) (hmain : ¬ interception.isMainExecutable m)
    (key : Key) :
    interception.offer engine (engine.enumerate m run).1 key =
      if key.hook = recorderId ∧ engine.refusesWrap key.pc = none then
        interception.registrationFor engine m key.pc
      else none := by
  unfold offer
  refine if_congr Iff.rfl ?_ rfl
  rw [steady.find?_enumerate, registrationFor, if_neg hmain, Option.map_map]
  rfl

lemma mem_map_enumerate (steady : engine.Steady) (hmain : ¬ interception.isMainExecutable m)
    {pc : Address} :
    pc ∈ (engine.enumerate m run).1.map (·.entry) ↔ pc ∈ interception.entries engine m := by
  rw [steady.mem_map_enumerate, entries, if_neg hmain]

/-- Counting symbols of an enumeration is counting entries. -/
lemma countP_enumerate (steady : engine.Steady) (hmain : ¬ interception.isMainExecutable m)
    (p : Address → Prop) [DecidablePred p] :
    ((engine.enumerate m run).1.countP fun symbol => p symbol.entry) =
      ((interception.entries engine m).filter p).card := by
  have hset : (((engine.enumerate m run).1.map (·.entry)).filter p).toFinset =
      (interception.entries engine m).filter p := by
    ext pc
    rw [List.mem_toFinset, List.mem_filter, mem_map_enumerate steady hmain, Finset.mem_filter,
      decide_eq_true_iff]
  rw [← hset, List.toFinset_card_of_nodup ((engine.enumerate_entries_nodup m run).filter _),
    ← List.countP_eq_length_filter, List.countP_map]
  rfl

/-! ## Loads -/

/-- A load that succeeds fills the table up by the registrations for the module. -/
lemma onLoad_getElem?_of_ok (steady : engine.Steady) {n : Nat}
    (h : (interception.onLoad engine m run).1 = .ok n) (key : Key) :
    (interception.onLoad engine m run).2.registrations[key]? =
      run.registrations[key]?.or
        (if key.hook = recorderId ∧ engine.refusesWrap key.pc = none then
          interception.registrationFor engine m key.pc
        else none) := by
  by_cases hmain : interception.isMainExecutable m
  · have hnone : interception.registrationFor engine m key.pc = none := if_pos hmain
    rw [hnone, ite_self, Option.or_none, onLoad, if_pos hmain]
    rfl
  · simp only [onLoad, if_neg hmain] at h ⊢
    rw [wrapAll_getElem?_of_ok h, Engine.enumerate_registrations, offer_enumerate steady hmain]

lemma onLoad_fst (steady : engine.Steady)
    (h : interception.checks = .ignore ∨
      ∀ pc ∈ interception.entries engine m, engine.Wrappable run.registrations pc) :
    (interception.onLoad engine m run).1 =
      .ok ((interception.entries engine m).filter (engine.Wrappable run.registrations)).card := by
  by_cases hmain : interception.isMainExecutable m
  · rw [onLoad, if_pos hmain, entries, if_pos hmain]
    rfl
  · have hall : interception.checks = .ignore ∨ ∀ symbol ∈ (engine.enumerate m run).1,
        engine.Wrappable (engine.enumerate m run).2.registrations symbol.entry := by
      rw [Engine.enumerate_registrations]
      refine h.imp_right fun hall symbol hsymbol => hall symbol.entry ?_
      exact (mem_map_enumerate steady hmain).1 (List.mem_map_of_mem hsymbol)
    simp only [onLoad, if_neg hmain]
    rw [wrapAll_fst (engine.enumerate_entries_nodup m run) hall, Engine.enumerate_registrations,
      countP_enumerate steady hmain, List.length_nil, Nat.zero_add]

/-- Whether it succeeds or not, a load leaves alone what is not a recorder at one of the module's
entries. -/
lemma onLoad_getElem?_of_not_mem (steady : engine.Steady) {key : Key}
    (h : key.hook ≠ recorderId ∨ key.pc ∉ interception.entries engine m) :
    (interception.onLoad engine m run).2.registrations[key]? = run.registrations[key]? := by
  by_cases hmain : interception.isMainExecutable m
  · rw [onLoad, if_pos hmain]
    rfl
  · have hnot : key.hook ≠ recorderId ∨
        key.pc ∉ [] ++ (engine.enumerate m run).1.map (·.entry) := by
      rwa [List.nil_append, mem_map_enumerate steady hmain]
    simp only [onLoad, if_neg hmain]
    rw [wrapAll_getElem?_of_not_mem hnot, Engine.enumerate_registrations]

/-! ## Unloads -/

/-- The symbols that an unload of a module clears, in the order of the export table. -/
def clearedBy (interception : Interception) (engine : Engine) (m : Module) (run : Run) :
    List ResolvedExport :=
  if interception.isMainExecutable m then []
  else interception.cleared engine run.registrations (engine.enumerate m run).1

/-- An unload takes out the recorders at the symbols it clears, and nothing else. -/
lemma onUnload_getElem? (key : Key) :
    (interception.onUnload engine m run).2.registrations[key]? =
      if key.hook = recorderId ∧ key.pc ∈ (interception.clearedBy engine m run).map (·.entry)
      then none else run.registrations[key]? := by
  by_cases hmain : interception.isMainExecutable m
  · simp [onUnload, clearedBy, hmain]
  · simp only [onUnload, clearedBy, if_neg hmain]
    rw [unwrapAll_getElem? (engine.enumerate_entries_nodup m run),
      Engine.enumerate_registrations]

lemma onUnload_fst_eq_ok_iff {n : Nat} :
    (interception.onUnload engine m run).1 = .ok n ↔
      (interception.isMainExecutable m ∨ interception.checks = .ignore ∨
        ∀ symbol ∈ (engine.enumerate m run).1,
          engine.Unwrappable run.registrations symbol.entry) ∧
      n = (interception.clearedBy engine m run).length := by
  by_cases hmain : interception.isMainExecutable m
  · simp [onUnload, clearedBy, hmain, eq_comm]
  · simp only [onUnload, clearedBy, if_neg hmain]
    rw [unwrapAll_fst_eq_ok_iff (engine.enumerate_entries_nodup m run),
      Engine.enumerate_registrations, Nat.zero_add]
    simp [hmain]

/-- An unload that succeeds has cleared everything that could be unwrapped. -/
lemma clearedBy_of_ok {n : Nat} (h : (interception.onUnload engine m run).1 = .ok n) :
    interception.clearedBy engine m run =
      if interception.isMainExecutable m then []
      else (engine.enumerate m run).1.filter fun symbol =>
        engine.Unwrappable run.registrations symbol.entry := by
  obtain ⟨hcomplete, -⟩ := onUnload_fst_eq_ok_iff.1 h
  by_cases hmain : interception.isMainExecutable m
  · rw [clearedBy, if_pos hmain, if_pos hmain]
  · rw [clearedBy, if_neg hmain, if_neg hmain, cleared]
    rcases hcomplete.resolve_left hmain with hignore | hall
    · simp only [hignore]
    · cases interception.checks with
      | ignore => rfl
      | abort =>
        have hall' : ∀ symbol ∈ (engine.enumerate m run).1,
            decide (engine.Unwrappable run.registrations symbol.entry) := by simpa using hall
        exact (List.takeWhile_eq_self_iff.2 hall').trans (List.filter_eq_self.2 hall').symm

lemma mem_clearedBy_of_ok {n : Nat} (h : (interception.onUnload engine m run).1 = .ok n)
    {pc : Address} :
    pc ∈ (interception.clearedBy engine m run).map (·.entry) ↔
      ¬ interception.isMainExecutable m ∧ pc ∈ (engine.enumerate m run).1.map (·.entry) ∧
        engine.Unwrappable run.registrations pc := by
  rw [clearedBy_of_ok h]
  by_cases hmain : interception.isMainExecutable m
  · simp [hmain]
  · rw [if_neg hmain, and_iff_right hmain, List.mem_map, List.mem_map]
    constructor
    · rintro ⟨symbol, hsymbol, rfl⟩
      obtain ⟨hmem, hunwrap⟩ := List.mem_filter.1 hsymbol
      exact ⟨⟨symbol, hmem, rfl⟩, by simpa using hunwrap⟩
    · rintro ⟨⟨symbol, hsymbol, rfl⟩, hunwrap⟩
      exact ⟨symbol, List.mem_filter.2 ⟨hsymbol, by simpa using hunwrap⟩, rfl⟩

/-- An unload that succeeds takes out the recorders at the module's entries, as far as the engine
does not refuse that by itself. -/
lemma onUnload_getElem?_of_ok (steady : engine.Steady) {n : Nat}
    (h : (interception.onUnload engine m run).1 = .ok n) (key : Key) :
    (interception.onUnload engine m run).2.registrations[key]? =
      if key.hook = recorderId ∧ engine.refusesUnwrap key.pc = none ∧
          key.pc ∈ interception.entries engine m
      then none else run.registrations[key]? := by
  rw [onUnload_getElem?]
  by_cases hmem : key ∈ run.registrations
  · refine if_congr ?_ rfl rfl
    rw [mem_clearedBy_of_ok h]
    by_cases hmain : interception.isMainExecutable m
    · simp [hmain, entries]
    · rw [mem_map_enumerate steady hmain, and_iff_right hmain]
      constructor
      · rintro ⟨hhook, hentry, hunwrap⟩
        exact ⟨hhook, hunwrap.1, hentry⟩
      · rintro ⟨hhook, hrefuses, hentry⟩
        refine ⟨hhook, hentry, hrefuses, ?_⟩
        rwa [Key.recorder_pc hhook]
  · rw [(Registrations.not_mem_iff _ _).1 hmem, ite_self, ite_self]

lemma onUnload_fst (steady : engine.Steady)
    (h : interception.checks = .ignore ∨
      ∀ pc ∈ interception.entries engine m, engine.Unwrappable run.registrations pc) :
    (interception.onUnload engine m run).1 =
      .ok ((interception.entries engine m).filter
        (engine.Unwrappable run.registrations)).card := by
  by_cases hmain : interception.isMainExecutable m
  · rw [onUnload, if_pos hmain, entries, if_pos hmain]
    rfl
  · have hcomplete : interception.isMainExecutable m ∨ interception.checks = .ignore ∨
        ∀ symbol ∈ (engine.enumerate m run).1,
          engine.Unwrappable run.registrations symbol.entry := by
      refine .inr (h.imp_right fun hall symbol hsymbol => hall symbol.entry ?_)
      exact (mem_map_enumerate steady hmain).1 (List.mem_map_of_mem hsymbol)
    have hok := onUnload_fst_eq_ok_iff.2 ⟨hcomplete, rfl⟩
    rw [hok, clearedBy_of_ok hok, if_neg hmain, ← List.countP_eq_length_filter,
      countP_enumerate steady hmain]

end CallTrace.Interception
