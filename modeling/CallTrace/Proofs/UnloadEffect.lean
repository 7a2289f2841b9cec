import Mathlib.Data.List.TakeWhile
import CallTrace.Proofs.ListedEntries
import CallTrace.Proofs.LoadAtomicity

/-!
# What an unload makes of a table

An unload takes the recorders out at the entries of its module, one after the other, and it does not
ask who has put them there.  So its effect can be told from the table and the entries alone, failed
or not (`onUnload_effect`).  With `ignore` all recorders at the entries go, and the answer counts
them.  With `abort` the first entry without a recorder ends the work: it is named in the answer, the
recorders in front of it are gone and those behind it stay.  There is no way back as there is for a
load.

An unload undoes a load that has succeeded under `abort`, since such a load has put a recorder at
each of the entries, and there was none before.
-/

namespace CallTrace

/-! ## Refusals -/

namespace Engine

/-- Why the recorder at an address is not unwrapped: the engine rejects the address by itself, or
else there is no recorder. -/
inductive UnwrapRefusal (engine : Engine) (table : Registrations) (pc : Address) : WrapError → Prop
  | rejected {reason : String} : engine.refusesUnwrap pc = some reason →
      engine.UnwrapRefusal table pc (.rejected pc reason)
  | notWrapped : engine.refusesUnwrap pc = none → Key.recorder pc ∉ table →
      engine.UnwrapRefusal table pc (.notWrapped pc)

variable {engine : Engine} {table : Registrations} {run : Run} {pc other : Address}
  {cause : WrapError}

lemma exists_unwrapRefusal (h : ¬ engine.Unwrappable table pc) :
    ∃ cause, engine.UnwrapRefusal table pc cause := by
  cases hrefuses : engine.refusesUnwrap pc with
  | some reason => exact ⟨_, .rejected hrefuses⟩
  | none => exact ⟨_, .notWrapped hrefuses fun hmem => h ⟨hrefuses, hmem⟩⟩

lemma UnwrapRefusal.erase (h : engine.UnwrapRefusal table pc cause) :
    engine.UnwrapRefusal (table.erase (Key.recorder other)) pc cause := by
  cases h with
  | rejected hrefuses => exact .rejected hrefuses
  | notWrapped hrefuses hnot =>
    refine .notWrapped hrefuses fun hmem => hnot ?_
    exact Std.ExtTreeMap.mem_of_mem_erase hmem

lemma unwrap_of_unwrapRefusal (h : engine.UnwrapRefusal run.registrations pc cause) :
    ∃ after, engine.unwrap pc recorderId run = (some cause, after) := by
  have hcause : engine.unwrapRefusal? run (Key.recorder pc) = some cause := by
    cases h with
    | rejected hrefuses => simp only [unwrapRefusal?, hrefuses]
    | notWrapped hrefuses hnot =>
      simp only [unwrapRefusal?, hrefuses]
      exact if_neg hnot
  simp only [unwrap, hcause]
  exact ⟨_, rfl⟩

end Engine

namespace Interception

variable {interception : Interception} {engine : Engine} {m : Module} {run : Run}

/-! ## The row of requests -/

lemma unwrapAll_registrations (removed : Nat) {symbols : List ResolvedExport}
    (hnodup : (symbols.map (·.entry)).Nodup) :
    (interception.unwrapAll engine m removed symbols run).2.registrations =
      run.registrations.without
        ((interception.cleared engine run.registrations symbols).map (·.entry)) :=
  Std.ExtTreeMap.ext_getElem? fun key => by
    rw [unwrapAll_getElem? hnodup, Registrations.getElem?_without]

/-- Under `abort` an unload names the first symbol that cannot be unwrapped. -/
lemma unwrapAll_fst_of_unwrapRefusal (habort : interception.checks = .abort) (removed : Nat)
    {front back : List ResolvedExport} {symbol : ResolvedExport} {cause : WrapError}
    (hnodup : (front.map (·.entry)).Nodup)
    (hfront : ∀ other ∈ front, engine.Unwrappable run.registrations other.entry)
    (hsymbol : engine.UnwrapRefusal run.registrations symbol.entry cause) :
    (interception.unwrapAll engine m removed (front ++ symbol :: back) run).1 =
      .error (.unwrapFailed m.name symbol.name cause) := by
  induction front generalizing removed run with
  | nil =>
    obtain ⟨after, hafter⟩ := Engine.unwrap_of_unwrapRefusal hsymbol
    simp only [List.nil_append, unwrapAll, hafter, habort]
  | cons first front ih =>
    rw [List.map_cons, List.nodup_cons] at hnodup
    rw [List.forall_mem_cons] at hfront
    obtain ⟨granted, hstep, htable⟩ :=
      unwrapAll_cons_granted interception m removed (front ++ symbol :: back) hfront.1
    have hrest : ∀ other ∈ front, engine.Unwrappable granted.registrations other.entry := by
      intro other hother
      rw [htable, Engine.unwrappable_erase_of_mem hnodup.1 hother]
      exact hfront.2 other hother
    rw [List.cons_append, hstep]
    exact ih (removed + 1) hnodup.2 hrest (htable ▸ hsymbol.erase)

/-- Whatever an unload comes to, it leaves alone what is not a recorder at one of its symbols. -/
lemma unwrapAll_getElem?_of_not_mem (interception : Interception) (engine : Engine) (m : Module)
    (run : Run) (removed : Nat) {symbols : List ResolvedExport}
    (hnodup : (symbols.map (·.entry)).Nodup) {key : Key}
    (h : key.hook ≠ recorderId ∨ key.pc ∉ symbols.map (·.entry)) :
    (interception.unwrapAll engine m removed symbols run).2.registrations[key]? =
      run.registrations[key]? := by
  rw [unwrapAll_getElem? hnodup, if_neg]
  rintro ⟨hhook, hcleared⟩
  exact h.elim (fun hne => hne hhook) fun hnot => hnot (mem_map_cleared.1 hcleared).1

/-- With `ignore` an unload takes out and counts all recorders that the engine lets go. -/
lemma unwrapAll_of_ignore (engine : Engine) (m : Module) (run : Run)
    (hignore : interception.checks = .ignore) {symbols : List ResolvedExport}
    (hnodup : (symbols.map (·.entry)).Nodup) :
    (interception.unwrapAll engine m 0 symbols run).1 =
        .ok (symbols.countP fun symbol => engine.Unwrappable run.registrations symbol.entry) ∧
      (interception.unwrapAll engine m 0 symbols run).2.registrations =
        run.registrations.without
          ((symbols.map (·.entry)).filter fun pc => engine.refusesUnwrap pc = none) := by
  constructor
  · rw [unwrapAll_fst_eq_ok_iff hnodup, List.countP_eq_length_filter, cleared, hignore]
    exact ⟨.inl rfl, (Nat.zero_add _).symm⟩
  · refine Std.ExtTreeMap.ext_getElem? fun key => ?_
    rw [unwrapAll_getElem? hnodup, Registrations.getElem?_without]
    by_cases hmem : key ∈ run.registrations
    · refine if_congr (and_congr_right fun hhook => ?_) rfl rfl
      have hrecorder : Key.recorder key.pc ∈ run.registrations := by rwa [Key.recorder_pc hhook]
      rw [mem_map_cleared, List.mem_filter, decide_eq_true_iff]
      simp [Engine.Unwrappable, hrecorder, hignore]
    · rw [(Registrations.not_mem_iff _ _).1 hmem, ite_self, ite_self]

/-- Under `abort` an unload takes out all recorders if it can, and otherwise those in front of the
first that it cannot take out. -/
lemma unwrapAll_of_abort (engine : Engine) (m : Module) (run : Run)
    (habort : interception.checks = .abort) {symbols : List ResolvedExport}
    (hnodup : (symbols.map (·.entry)).Nodup) :
    ((∀ symbol ∈ symbols, engine.Unwrappable run.registrations symbol.entry) →
      (interception.unwrapAll engine m 0 symbols run).1 = .ok symbols.length ∧
      (interception.unwrapAll engine m 0 symbols run).2.registrations =
        run.registrations.without (symbols.map (·.entry))) ∧
    ∀ symbol,
      symbols.find? (fun symbol => ¬ engine.Unwrappable run.registrations symbol.entry) =
          some symbol →
        (∃ cause, engine.UnwrapRefusal run.registrations symbol.entry cause ∧
          (interception.unwrapAll engine m 0 symbols run).1 =
            .error (.unwrapFailed m.name symbol.name cause)) ∧
        (interception.unwrapAll engine m 0 symbols run).2.registrations =
          run.registrations.without
            ((symbols.takeWhile fun symbol =>
              engine.Unwrappable run.registrations symbol.entry).map (·.entry)) := by
  have hcleared : interception.cleared engine run.registrations symbols =
      symbols.takeWhile fun symbol => engine.Unwrappable run.registrations symbol.entry := by
    simp only [cleared, habort]
  constructor
  · intro hall
    have hwhole : interception.cleared engine run.registrations symbols = symbols :=
      hcleared.trans (List.takeWhile_eq_self_iff.2 (by simpa using hall))
    constructor
    · rw [unwrapAll_fst_eq_ok_iff hnodup, hwhole, Nat.zero_add]
      exact ⟨.inr hall, rfl⟩
    · rw [unwrapAll_registrations 0 hnodup, hwhole]
  · intro symbol hfirst
    refine ⟨?_, by rw [unwrapAll_registrations 0 hnodup, hcleared]⟩
    obtain ⟨hsymbol, front, back, rfl, hfront⟩ := List.find?_eq_some_iff_append.1 hfirst
    obtain ⟨cause, hcause⟩ := Engine.exists_unwrapRefusal (by simpa using hsymbol)
    rw [List.map_append, List.nodup_append] at hnodup
    exact ⟨cause, hcause, unwrapAll_fst_of_unwrapRefusal habort 0 hnodup.1
      (by simpa using hfront) hcause⟩

/-! ## Loads that have succeeded -/

/-- Under `abort` a load that succeeds has put a recorder at each entry, and without them the table
is what it was. -/
lemma loaded_of_wrapAll_ok (habort : interception.checks = .abort)
    {symbols : List ResolvedExport} {n : Nat}
    (hnodup : (symbols.map (·.entry)).Nodup)
    (hok : (interception.wrapAll engine m [] symbols run).1 = .ok n) :
    n = symbols.length ∧
      (∀ symbol ∈ symbols, Key.recorder symbol.entry ∈
        (interception.wrapAll engine m [] symbols run).2.registrations) ∧
      (interception.wrapAll engine m [] symbols run).2.registrations.without
        (symbols.map (·.entry)) = run.registrations := by
  have hall := wrappable_of_wrapAll_ok habort hnodup hok
  have hlength : n = symbols.length := by
    rw [wrapAll_fst hnodup (.inr hall), Except.ok.injEq,
      List.countP_eq_length.2 (by simpa using hall), List.length_nil, Nat.zero_add] at hok
    exact hok.symm
  obtain ⟨after, hafter, hthere, hwithout⟩ := wrapAll_append interception m [] [] hnodup hall
  rw [List.append_nil] at hafter
  rw [hafter]
  exact ⟨hlength, hthere, hwithout⟩

lemma onUnload_of_not_main (hmain : ¬ interception.isMainExecutable m) :
    interception.onUnload engine m run =
      interception.unwrapAll engine m 0 (engine.enumerate m run).1 (engine.enumerate m run).2 := by
  rw [onUnload, if_neg hmain]

/-- Under `abort` an unload undoes a load that has succeeded, from any run with the table that the
load has made, as long as resolvers answer alike and the engine takes back what it has granted. -/
lemma onUnload_of_onLoad (steady : engine.Steady) (habort : interception.checks = .abort)
    (hunwraps : ∀ pc, engine.refusesUnwrap pc = none) {loaded : Run} {n : Nat}
    (hok : (interception.onLoad engine m run).1 = .ok n)
    (hloaded : loaded.registrations = (interception.onLoad engine m run).2.registrations) :
    (interception.onUnload engine m loaded).1 = .ok n ∧
      (interception.onUnload engine m loaded).2.registrations = run.registrations := by
  by_cases hmain : interception.isMainExecutable m
  · -- The main executable is passed over both times.
    rw [onLoad, if_pos hmain] at hok hloaded
    rw [onUnload, if_pos hmain]
    exact ⟨hok, hloaded⟩
  · rw [onLoad_of_not_main hmain] at hok hloaded
    have hnodup := engine.enumerate_entries_nodup m run
    obtain ⟨rfl, hthere, hwithout⟩ := loaded_of_wrapAll_ok habort hnodup hok
    rw [← hloaded] at hthere hwithout
    rw [Engine.enumerate_registrations] at hwithout
    rw [onUnload_of_not_main hmain, steady.enumerate_fst_eq m loaded run]
    have htable : (engine.enumerate m loaded).2.registrations = loaded.registrations :=
      Engine.enumerate_registrations m loaded
    have hall : ∀ symbol ∈ (engine.enumerate m run).1,
        engine.Unwrappable (engine.enumerate m loaded).2.registrations symbol.entry := by
      intro symbol hsymbol
      rw [htable]
      exact ⟨hunwraps _, hthere symbol hsymbol⟩
    obtain ⟨hanswer, hrestored⟩ := (unwrapAll_of_abort engine m _ habort hnodup).1 hall
    exact ⟨hanswer, by rw [hrestored, htable, hwithout]⟩

end Interception

/-- **What an unload makes of a table.**  With `ignore` it answers how many recorders it has taken
out, and these are all at the entries of the library that the engine lets go.  With `abort` it does
the same if there is a recorder at each entry; otherwise it fails at the first entry without one,
with the recorders in front of it taken out and no other.  Other hooks stay, and so do recorders at
other addresses.  After a load that has succeeded under `abort` the table is what it was before. -/
theorem onUnload_effect (engine : Engine) (interception : Interception) (m : Module)
    {run after : Run} {symbols : List ResolvedExport} {answer : Except InterceptError Nat}
    (hmain : ¬ interception.isMainExecutable m)
    (hsymbols : (engine.enumerate m run).1 = symbols)
    (hunload : interception.onUnload engine m run = (answer, after)) :
    (interception.checks = .ignore →
      answer = .ok (symbols.countP fun symbol =>
        engine.Unwrappable run.registrations symbol.entry) ∧
      after.registrations = run.registrations.without
        ((symbols.map (·.entry)).filter fun pc => engine.refusesUnwrap pc = none)) ∧
    (interception.checks = .abort →
      ((∀ symbol ∈ symbols, engine.Unwrappable run.registrations symbol.entry) →
        answer = .ok symbols.length ∧
        after.registrations = run.registrations.without (symbols.map (·.entry))) ∧
      ∀ symbol,
        symbols.find? (fun symbol => ¬ engine.Unwrappable run.registrations symbol.entry) =
            some symbol →
          (∃ cause, engine.UnwrapRefusal run.registrations symbol.entry cause ∧
            answer = .error (.unwrapFailed m.name symbol.name cause)) ∧
          after.registrations = run.registrations.without
            ((symbols.takeWhile fun symbol =>
              engine.Unwrappable run.registrations symbol.entry).map (·.entry))) ∧
    (∀ key : Key, key.hook ≠ recorderId ∨ key.pc ∉ symbols.map (·.entry) →
      after.registrations[key]? = run.registrations[key]?) ∧
    (engine.Steady → interception.checks = .abort → (∀ pc, engine.refusesUnwrap pc = none) →
      ∀ before n, interception.onLoad engine m before = (.ok n, run) →
        answer = .ok n ∧ after.registrations = before.registrations) := by
  have hnodup : (symbols.map (·.entry)).Nodup := hsymbols ▸ engine.enumerate_entries_nodup m run
  have htable : (engine.enumerate m run).2.registrations = run.registrations :=
    Engine.enumerate_registrations m run
  have hwork : interception.unwrapAll engine m 0 symbols (engine.enumerate m run).2 =
      (answer, after) := by
    rw [← hunload, Interception.onUnload_of_not_main hmain, hsymbols]
  refine ⟨fun hignore => ?_, fun habort => ?_, fun key hkey => ?_,
    fun steady habort hunwraps before n hload => ?_⟩
  · have h := Interception.unwrapAll_of_ignore engine m (engine.enumerate m run).2 hignore hnodup
    rwa [hwork, htable] at h
  · have h := Interception.unwrapAll_of_abort engine m (engine.enumerate m run).2 habort hnodup
    rwa [hwork, htable] at h
  · have h := interception.unwrapAll_getElem?_of_not_mem engine m (engine.enumerate m run).2 0
      hnodup hkey
    rwa [hwork, htable] at h
  · have h := Interception.onUnload_of_onLoad steady habort hunwraps
      (congrArg Prod.fst hload) (congrArg (·.2.registrations) hload).symm
    rwa [hunload] at h

/-! ## An unload that fails half-way -/

namespace HalfUnloaded

open GivenUp

/-- There are recorders at all entries but the third, and somebody else has a hook at the first. -/
def rows : List (Key × Registration) :=
  [(Key.recorder 0x2100, ⟨.recorder session.recorder, "open"⟩),
    (⟨0x2100, ⟨7⟩⟩, ⟨.foreign ⟨7⟩, "audit"⟩),
    (Key.recorder 0x2600, ⟨.recorder session.recorder, "memcpy"⟩),
    (Key.recorder 0x2300, ⟨.recorder session.recorder, "brk"⟩)]

def before : Run := { Run.start with registrations := Std.ExtTreeMap.ofList rows Key.cmp }

def after : Run := (session.onUnload scenario.engine liba before).2

end HalfUnloaded

open GivenUp HalfUnloaded in
/-- The recorders in front of the missing one are gone; the one behind it stays, and so does the
hook of somebody else at an entry that has been cleared. -/
theorem close_not_unwrapped :
    (session.onUnload scenario.engine liba before).1 =
        .error (.unwrapFailed "liba.so" "close" (.notWrapped 0x2200)) ∧
      after.registrations[Key.recorder 0x2100]? = none ∧
      after.registrations[Key.recorder 0x2600]? = none ∧
      after.registrations[Key.recorder 0x2300]? = some ⟨.recorder session.recorder, "brk"⟩ ∧
      after.registrations[(⟨0x2100, ⟨7⟩⟩ : Key)]? = some ⟨.foreign ⟨7⟩, "audit"⟩ := by
  have hfirst : (scenario.engine.enumerate liba before).1.find?
      (fun symbol => ¬ scenario.engine.Unwrappable before.registrations symbol.entry) =
        some ⟨"close", 0x2200, none⟩ := by decide +kernel
  have hunload : session.onUnload scenario.engine liba before =
      ((session.onUnload scenario.engine liba before).1, after) := rfl
  obtain ⟨-, habort, hkept, -⟩ :=
    onUnload_effect scenario.engine session liba (by decide) rfl hunload
  obtain ⟨⟨cause, hcause, hanswer⟩, htable⟩ := (habort rfl).2 _ hfirst
  refine ⟨?_, ?_, ?_, ?_, ?_⟩
  · cases hcause with
    | rejected hrefuses =>
      have hfree : scenario.engine.refusesUnwrap 0x2200 = none := by decide
      cases hfree.symm.trans hrefuses
    | notWrapped => exact hanswer
  · rw [htable, Registrations.getElem?_without]
    decide +kernel
  · rw [htable, Registrations.getElem?_without]
    decide +kernel
  · rw [htable, Registrations.getElem?_without]
    decide +kernel
  · rw [hkept _ (.inl (by decide))]
    decide +kernel

end CallTrace
