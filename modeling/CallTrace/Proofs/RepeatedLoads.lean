import CallTrace.Proofs.Replay
import CallTrace.Proofs.SessionLives

/-!
# Loads that are repeated

A session that is told once more of modules that it knows does nothing to the table
(`loads_repeated`).  This needs no agreement between the modules: they may share entries, some may
have been given up at the first time, and the engine may reject addresses of its own.

The reason is that a table only grows as modules load.  A load that is given up takes back no more
than it has put there, and what was refused once is refused again in every larger table.  So a load
leaves behind a table on which it is *spent* (`Interception.Spent`), and it stays so whatever loads
after it: with `ignore` no entry is left that could be wrapped, and with `abort` the load fails and
takes back all that it has wrapped before.

An engine that does not let a load take back what it has granted makes no difference.  What stays
behind is then in the way of the next load, which does not get as far as the first.
-/

namespace CallTrace

namespace Registrations

lemma mem_without_iff {table : Registrations} {addresses : List Address} {key : Key} :
    key ∈ table.without addresses ↔
      key ∈ table ∧ ¬ (key.hook = recorderId ∧ key.pc ∈ addresses) := by
  rw [mem_iff_exists, mem_iff_exists, getElem?_without]
  split <;> simp_all

end Registrations

/-- What can be wrapped in a larger table can be wrapped in a smaller one. -/
lemma Engine.Wrappable.of_subset {engine : Engine} {table after : Registrations} {pc : Address}
    (h : engine.Wrappable after pc) (hgrow : ∀ key ∈ table, key ∈ after) :
    engine.Wrappable table pc :=
  ⟨h.1, fun hmem => h.2 (hgrow _ hmem)⟩

namespace Interception

variable {interception : Interception} {engine : Engine} {m : Module} {run : Run}
  {symbols : List ResolvedExport} {table after : Registrations}

/-! ## Loads that are spent -/

/-- A load of these symbols would leave a table as it is.  With `ignore` no symbol can be wrapped.
With `abort` there is one that cannot be wrapped, and what can be wrapped in front of it can also be
taken back. -/
def Spent (interception : Interception) (engine : Engine) (symbols : List ResolvedExport)
    (table : Registrations) : Prop :=
  match interception.checks with
  | .ignore => ∀ symbol ∈ symbols, ¬ engine.Wrappable table symbol.entry
  | .abort => symbols = [] ∨ ∃ front symbol back, symbols = front ++ symbol :: back ∧
      ¬ engine.Wrappable table symbol.entry ∧
      ∀ other ∈ front, engine.Wrappable table other.entry → engine.refusesUnwrap other.entry = none

/-- A load that is spent stays so as the table grows. -/
lemma Spent.of_subset (h : interception.Spent engine symbols table)
    (hgrow : ∀ key ∈ table, key ∈ after) : interception.Spent engine symbols after := by
  unfold Spent at h ⊢
  cases hchecks : interception.checks with
  | ignore =>
    simp only [hchecks] at h ⊢
    exact fun symbol hsymbol hwrap => h symbol hsymbol (hwrap.of_subset hgrow)
  | abort =>
    simp only [hchecks] at h ⊢
    refine h.imp_right ?_
    rintro ⟨front, symbol, back, hsymbols, hrefused, hfront⟩
    exact ⟨front, symbol, back, hsymbols, fun hwrap => hrefused (hwrap.of_subset hgrow),
      fun other hother hwrap => hfront other hother (hwrap.of_subset hgrow)⟩

/-- Where all symbols are refused, a load is spent. -/
lemma spent_of_forall_not_wrappable
    (h : ∀ symbol ∈ symbols, ¬ engine.Wrappable table symbol.entry) :
    interception.Spent engine symbols table := by
  unfold Spent
  cases interception.checks with
  | ignore => exact h
  | abort =>
    cases symbols with
    | nil => exact .inl rfl
    | cons symbol rest => exact .inr ⟨[], symbol, rest, rfl, h symbol List.mem_cons_self, by simp⟩

/-- If some symbol is refused, there is a first one. -/
lemma exists_first_refused (h : ¬ ∀ symbol ∈ symbols, engine.Wrappable table symbol.entry) :
    ∃ front symbol back, symbols = front ++ symbol :: back ∧
      ¬ engine.Wrappable table symbol.entry ∧
      ∀ other ∈ front, engine.Wrappable table other.entry := by
  have hsome : (symbols.find? fun symbol => ¬ engine.Wrappable table symbol.entry).isSome := by
    rw [List.find?_isSome]
    simpa using h
  obtain ⟨symbol, hfind⟩ := Option.isSome_iff_exists.1 hsome
  obtain ⟨hsymbol, front, back, hsymbols, hfront⟩ := List.find?_eq_some_iff_append.1 hfind
  exact ⟨front, symbol, back, hsymbols, by simpa using hsymbol, by simpa using hfront⟩

/-- Under `abort` a load that is spent and has something to wrap comes to a refusal, and all in
front of the first refusal can be taken back. -/
lemma Spent.exists_first (h : interception.Spent engine symbols table)
    (habort : interception.checks = .abort) (hne : symbols ≠ []) :
    ∃ front symbol back, symbols = front ++ symbol :: back ∧
      ¬ engine.Wrappable table symbol.entry ∧
      (∀ other ∈ front, engine.Wrappable table other.entry) ∧
      ∀ other ∈ front, engine.refusesUnwrap other.entry = none := by
  simp only [Spent, habort] at h
  obtain ⟨before, refused, rest, hsymbols, hrefused, hbefore⟩ := h.resolve_left hne
  have hmem : refused ∈ symbols := hsymbols ▸ List.mem_append_right before List.mem_cons_self
  have hsome : ¬ ∀ symbol ∈ symbols, engine.Wrappable table symbol.entry :=
    fun hall => hrefused (hall refused hmem)
  obtain ⟨front, symbol, back, hfirst, hsymbol, hfront⟩ := exists_first_refused hsome
  refine ⟨front, symbol, back, hfirst, hsymbol, hfront, ?_⟩
  -- The first refusal does not come behind the other one.
  have hshorter : front <+: before := by
    obtain ⟨more, hmore, -⟩ | ⟨more, hmore, hrest⟩ :=
      List.append_eq_append_iff.1 (hfirst.symm.trans hsymbols)
    · exact hmore ▸ List.prefix_append front more
    · cases more with
      | nil => simp [hmore]
      | cons other more =>
        obtain ⟨rfl, -⟩ := List.cons.inj hrest
        exact absurd (hfront refused (by simp [hmore])) hrefused
  exact fun other hother => hbefore other (hshorter.subset hother) (hfront other hother)

/-! ## The row of requests -/

/-- Symbols that cannot be wrapped have nothing to offer that is not refused or taken. -/
lemma or_offer_of_forall_not_wrappable
    (h : ∀ symbol ∈ symbols, ¬ engine.Wrappable table symbol.entry) (key : Key) :
    table[key]?.or (interception.offer engine symbols key) = table[key]? := by
  induction symbols with
  | nil => simp [offer]
  | cons symbol rest ih =>
    rw [List.forall_mem_cons] at h
    rw [or_offer_cons_of_not_wrappable rest h.1, ih h.2]

/-- A load that succeeds leaves no symbol that could be wrapped. -/
lemma not_wrappable_of_wrapAll_ok {n : Nat}
    (hok : (interception.wrapAll engine m [] symbols run).1 = .ok n) :
    ∀ symbol ∈ symbols, ¬ engine.Wrappable
      (interception.wrapAll engine m [] symbols run).2.registrations symbol.entry := by
  rintro symbol hsymbol ⟨hrefuses, hnot⟩
  rw [Registrations.not_mem_iff, wrapAll_getElem?_of_ok hok, Option.or_eq_none_iff, offer,
    if_pos ⟨rfl, hrefuses⟩, Option.map_eq_none_iff, List.find?_eq_none] at hnot
  exact hnot.2 symbol hsymbol (by simp)

/-- A load that is spent leaves the table as it is. -/
lemma wrapAll_registrations_of_spent
    (hnodup : (symbols.map (·.entry)).Nodup)
    (h : interception.Spent engine symbols run.registrations) :
    (interception.wrapAll engine m [] symbols run).2.registrations = run.registrations := by
  cases hchecks : interception.checks with
  | ignore =>
    simp only [Spent, hchecks] at h
    have hok : (interception.wrapAll engine m [] symbols run).1 = .ok _ :=
      wrapAll_fst hnodup (.inl hchecks)
    refine Std.ExtTreeMap.ext_getElem? fun key => ?_
    rw [wrapAll_getElem?_of_ok hok, or_offer_of_forall_not_wrappable h]
  | abort =>
    by_cases hne : symbols = []
    · subst hne
      rfl
    · obtain ⟨front, symbol, back, rfl, hrefused, hfront, hunwraps⟩ := h.exists_first hchecks hne
      obtain ⟨cause, hcause⟩ := Engine.exists_wrapRefusal hrefused
      obtain ⟨-, reached, -, hwithout, htable⟩ :=
        wrapAll_of_first_refusal (m := m) hchecks hnodup hfront hcause
      rw [htable, List.filter_eq_self.2 (by simpa using hunwraps), hwithout]

/-- After a load the table has grown, and the load is spent. -/
lemma spent_wrapAll (hnodup : (symbols.map (·.entry)).Nodup) :
    (∀ key ∈ run.registrations,
      key ∈ (interception.wrapAll engine m [] symbols run).2.registrations) ∧
    interception.Spent engine symbols
      (interception.wrapAll engine m [] symbols run).2.registrations := by
  by_cases h : interception.checks = .ignore ∨
    ∀ symbol ∈ symbols, engine.Wrappable run.registrations symbol.entry
  · have hok : (interception.wrapAll engine m [] symbols run).1 = .ok _ := wrapAll_fst hnodup h
    refine ⟨fun key hkey => ?_, spent_of_forall_not_wrappable (not_wrappable_of_wrapAll_ok hok)⟩
    obtain ⟨registration, hregistration⟩ := (Registrations.mem_iff_exists _ _).1 hkey
    rw [Registrations.mem_iff_exists, wrapAll_getElem?_of_ok hok, hregistration]
    exact ⟨registration, rfl⟩
  · rw [not_or] at h
    obtain ⟨hchecks, hall⟩ := h
    have habort : interception.checks = .abort := by
      cases hmode : interception.checks with
      | abort => rfl
      | ignore => exact absurd hmode hchecks
    obtain ⟨front, symbol, back, rfl, hrefused, hfront⟩ := exists_first_refused hall
    obtain ⟨cause, hcause⟩ := Engine.exists_wrapRefusal hrefused
    obtain ⟨-, reached, hthere, hwithout, htable⟩ :=
      wrapAll_of_first_refusal (m := m) habort hnodup hfront hcause
    have hgrow : ∀ key ∈ run.registrations, key ∈
        (interception.wrapAll engine m [] (front ++ symbol :: back) run).2.registrations := by
      intro key hkey
      rw [← hwithout, Registrations.mem_without_iff] at hkey
      rw [htable, Registrations.mem_without_iff]
      exact ⟨hkey.1, fun hback => hkey.2 ⟨hback.1, List.mem_of_mem_filter hback.2⟩⟩
    refine ⟨hgrow, ?_⟩
    simp only [Spent, habort]
    refine .inr ⟨front, symbol, back, rfl, fun hwrap => hrefused (hwrap.of_subset hgrow), ?_⟩
    intro other hother hwrap
    -- If it could not be taken back, it would still be there.
    by_contra hunwraps
    refine hwrap.2 ?_
    rw [htable, Registrations.mem_without_iff]
    refine ⟨hthere other hother, fun hback => hunwraps ?_⟩
    simpa using (List.mem_filter.1 hback.2).2

/-! ## Loads of modules -/

/-- What a session has to wrap for a module, in the order of its table. -/
def symbolsOf (interception : Interception) (engine : Engine) (m : Module) (run : Run) :
    List ResolvedExport :=
  if interception.isMainExecutable m then [] else (engine.enumerate m run).1

lemma symbolsOf_eq (steady : engine.Steady) (m : Module) (run run' : Run) :
    interception.symbolsOf engine m run = interception.symbolsOf engine m run' := by
  rw [symbolsOf, symbolsOf, steady.enumerate_fst_eq m run run']

lemma nodup_symbolsOf (interception : Interception) (engine : Engine) (m : Module) (run : Run) :
    ((interception.symbolsOf engine m run).map (·.entry)).Nodup := by
  unfold symbolsOf
  split
  · exact List.nodup_nil
  · exact engine.enumerate_entries_nodup m run

lemma symbolsOf_ne_nil_iff (steady : engine.Steady) :
    interception.symbolsOf engine m run ≠ [] ↔ (interception.entries engine m).Nonempty := by
  by_cases hmain : interception.isMainExecutable m
  · simp [symbolsOf, entries, hmain]
  · rw [symbolsOf, if_neg hmain]
    constructor
    · intro hne
      obtain ⟨symbol, hsymbol⟩ := List.exists_mem_of_ne_nil _ hne
      exact ⟨symbol.entry, (mem_map_enumerate steady hmain).1 (List.mem_map_of_mem hsymbol)⟩
    · rintro ⟨pc, hpc⟩
      obtain ⟨symbol, hsymbol, -⟩ := List.mem_map.1 ((mem_map_enumerate steady hmain).2 hpc)
      exact List.ne_nil_of_mem hsymbol

/-- A load of a module is a row of requests for its symbols; for the main executable it is the empty
row. -/
lemma exists_wrapAll_eq (interception : Interception) (engine : Engine) (m : Module) (run : Run) :
    ∃ enumerated : Run, enumerated.registrations = run.registrations ∧
      (interception.onLoad engine m run).1 =
        (interception.wrapAll engine m [] (interception.symbolsOf engine m run) enumerated).1 ∧
      (interception.onLoad engine m run).2.registrations =
        (interception.wrapAll engine m [] (interception.symbolsOf engine m run)
          enumerated).2.registrations := by
  by_cases hmain : interception.isMainExecutable m
  · rw [onLoad, if_pos hmain, symbolsOf, if_pos hmain]
    exact ⟨run, rfl, rfl, rfl⟩
  · rw [onLoad_of_not_main hmain, symbolsOf, if_neg hmain]
    exact ⟨_, Engine.enumerate_registrations m run, rfl, rfl⟩

lemma onLoad_registrations_of_spent
    (h : interception.Spent engine (interception.symbolsOf engine m run) run.registrations) :
    (interception.onLoad engine m run).2.registrations = run.registrations := by
  obtain ⟨enumerated, hsame, -, htable⟩ := exists_wrapAll_eq interception engine m run
  rw [htable, ← hsame]
  exact wrapAll_registrations_of_spent (nodup_symbolsOf interception engine m run) (hsame ▸ h)

/-- After a load the table has grown, and the same load would be spent. -/
lemma spent_onLoad (interception : Interception) (engine : Engine) (m : Module) (run : Run) :
    (∀ key ∈ run.registrations, key ∈ (interception.onLoad engine m run).2.registrations) ∧
      interception.Spent engine (interception.symbolsOf engine m run)
        (interception.onLoad engine m run).2.registrations := by
  obtain ⟨enumerated, hsame, -, htable⟩ := exists_wrapAll_eq interception engine m run
  rw [htable, ← hsame]
  exact spent_wrapAll (nodup_symbolsOf interception engine m run)

/-- Under `abort` a load that is spent fails if it has anything to wrap, at the first entry that
cannot be wrapped. -/
lemma onLoad_error_of_spent (habort : interception.checks = .abort)
    (h : interception.Spent engine (interception.symbolsOf engine m run) run.registrations)
    (hne : interception.symbolsOf engine m run ≠ []) :
    ∃ symbol cause, (engine.enumerate m run).1.find?
        (fun symbol => ¬ engine.Wrappable run.registrations symbol.entry) = some symbol ∧
      engine.WrapRefusal run.registrations symbol.entry cause ∧
      (interception.onLoad engine m run).1 = .error (.wrapFailed m.name symbol.name cause) := by
  have hmain : ¬ interception.isMainExecutable m := fun hmain => hne (if_pos hmain)
  have hsymbols : interception.symbolsOf engine m run = (engine.enumerate m run).1 := if_neg hmain
  have hnodup := nodup_symbolsOf interception engine m run
  obtain ⟨enumerated, hsame, hanswer, -⟩ := exists_wrapAll_eq interception engine m run
  obtain ⟨front, symbol, back, hsplit, hrefused, hfront, -⟩ := h.exists_first habort hne
  obtain ⟨cause, hcause⟩ := Engine.exists_wrapRefusal hrefused
  refine ⟨symbol, cause, ?_, hcause, ?_⟩
  · rw [← hsymbols, hsplit, List.find?_eq_some_iff_append]
    exact ⟨by simpa using hrefused, front, back, rfl, by simpa using hfront⟩
  · rw [hsplit] at hanswer hnodup
    rw [← hsame] at hfront hcause
    rw [hanswer]
    exact (wrapAll_of_first_refusal habort hnodup hfront hcause).1

/-- A load that has nothing to wrap succeeds. -/
lemma onLoad_ok_of_symbolsOf_eq_nil (h : interception.symbolsOf engine m run = []) :
    (interception.onLoad engine m run).1 = .ok 0 := by
  obtain ⟨enumerated, -, hanswer, -⟩ := exists_wrapAll_eq interception engine m run
  rw [hanswer, h]
  rfl

/-! ## Loads in a row -/

open ModuleEvent

variable {policy : FailurePolicy} {id : SubscriptionId} {modules : List Module}

/-- As modules load, the table grows. -/
lemma follow_loads_subset (modules : List Module) (run : Run) :
    ∀ key ∈ run.registrations, key ∈
      (interception.follow engine policy id (modules.map (.load · true)) run).registrations := by
  induction modules generalizing run with
  | nil => exact fun _ hkey => hkey
  | cons m modules ih =>
    intro key hkey
    rw [List.map_cons, follow_cons]
    apply ih
    rw [Run.settle_registrations]
    exact (spent_onLoad interception engine m run).1 key hkey

/-- After loads in a row each of them is spent. -/
lemma spent_follow_loads (steady : engine.Steady) (modules : List Module) (run : Run) :
    ∀ m ∈ modules, ∀ other, interception.Spent engine (interception.symbolsOf engine m other)
      (interception.follow engine policy id (modules.map (.load · true)) run).registrations := by
  induction modules generalizing run with
  | nil => exact fun _ hm => absurd hm List.not_mem_nil
  | cons m modules ih =>
    rw [List.map_cons, follow_cons, List.forall_mem_cons]
    refine ⟨fun other => ?_, ih _⟩
    have hspent := (spent_onLoad interception engine m run).2
    rw [symbolsOf_eq steady m run other] at hspent
    refine hspent.of_subset fun key hkey => follow_loads_subset modules _ key ?_
    rwa [Run.settle_registrations]

/-- Loads that are spent leave the table as it is. -/
lemma follow_loads_registrations_of_spent
    (h : ∀ m ∈ modules, ∀ other, interception.Spent engine
      (interception.symbolsOf engine m other) run.registrations) :
    (interception.follow engine policy id (modules.map (.load · true)) run).registrations =
      run.registrations := by
  induction modules generalizing run with
  | nil => rfl
  | cons m modules ih =>
    rw [List.forall_mem_cons] at h
    have hload : (Run.settle policy id
        (interception.handle engine (.load m true) run)).registrations = run.registrations := by
      rw [Run.settle_registrations]
      exact onLoad_registrations_of_spent (h.1 run)
    rw [List.map_cons, follow_cons, ih (by rw [hload]; exact h.2), hload]

/-- A failure that is reported under a subscription blames the load of a module: it names the
module, the first entry that cannot be wrapped, and why it cannot. -/
def Blames (engine : Engine) (id : SubscriptionId) (run : Run) (m : Module)
    (failure : SubscriptionId × InterceptError) : Prop :=
  ∃ symbol cause, (engine.enumerate m run).1.find?
      (fun symbol => ¬ engine.Wrappable run.registrations symbol.entry) = some symbol ∧
    engine.WrapRefusal run.registrations symbol.entry cause ∧
    failure = (id, .wrapFailed m.name symbol.name cause)

lemma Blames.of_registrations_eq (steady : engine.Steady) {run run' : Run}
    {failure : SubscriptionId × InterceptError}
    (hsame : run'.registrations = run.registrations) (h : Blames engine id run' m failure) :
    Blames engine id run m failure := by
  unfold Blames at h ⊢
  rwa [hsame, steady.enumerate_fst_eq m run' run] at h

lemma failures_settle_error (id : SubscriptionId) {cause : InterceptError}
    {outcome : Except InterceptError Nat × Run} (h : outcome.1 = .error cause) :
    (Run.settle .report id outcome).journal.failures =
      outcome.2.journal.failures ++ [(id, cause)] := by
  obtain ⟨answer, after⟩ := outcome
  obtain rfl : answer = .error cause := h
  simp [Run.settle, Run.fail, Run.enter, Journal.failures]

/-- Under `abort` loads that are spent fail one after the other, as far as they have anything to
wrap. -/
lemma failures_follow_loads_of_spent (steady : engine.Steady)
    (habort : interception.checks = .abort)
    (h : ∀ m ∈ modules, ∀ other, interception.Spent engine
      (interception.symbolsOf engine m other) run.registrations) :
    ∃ reported,
      (interception.follow engine .report id (modules.map (.load · true)) run).journal.failures =
        run.journal.failures ++ reported ∧
      List.Forall₂ (Blames engine id run)
        (modules.filter fun m => (interception.entries engine m).Nonempty) reported := by
  induction modules generalizing run with
  | nil => exact ⟨[], by simp, .nil⟩
  | cons m modules ih =>
    rw [List.forall_mem_cons] at h
    have hquiet : (interception.handle engine (.load m true) run).2.journal.failures =
        run.journal.failures := (handle_confined (.load m true) run).failures_eq
    have hload : (Run.settle .report id
        (interception.handle engine (.load m true) run)).registrations = run.registrations := by
      rw [Run.settle_registrations]
      exact onLoad_registrations_of_spent (h.1 run)
    obtain ⟨reported, hreported, hall⟩ := ih (by rw [hload]; exact h.2)
    replace hall := hall.imp fun _ _ hblames => hblames.of_registrations_eq steady hload
    rw [List.map_cons, follow_cons, hreported]
    by_cases hentries : (interception.entries engine m).Nonempty
    · obtain ⟨symbol, cause, hfirst, hcause, hanswer⟩ :=
        onLoad_error_of_spent habort (h.1 run) ((symbolsOf_ne_nil_iff steady).2 hentries)
      have hfailed : (interception.handle engine (.load m true) run).1 =
        .error (.wrapFailed m.name symbol.name cause) := hanswer
      refine ⟨(id, .wrapFailed m.name symbol.name cause) :: reported, ?_, ?_⟩
      · rw [failures_settle_error id hfailed, hquiet, List.append_assoc, List.singleton_append]
      · rw [List.filter_cons_of_pos (by simpa using hentries)]
        exact .cons ⟨symbol, cause, hfirst, hcause, rfl⟩ hall
    · have hnil : interception.symbolsOf engine m run = [] := by
        by_contra hne
        exact hentries ((symbolsOf_ne_nil_iff steady).1 hne)
      have hok : (interception.handle engine (.load m true) run).1 = .ok 0 :=
        onLoad_ok_of_symbolsOf_eq_nil hnil
      refine ⟨reported, ?_, ?_⟩
      · rw [Run.settle_of_ok hok, hquiet]
      · rwa [List.filter_cons_of_neg (by simpa using hentries)]

end Interception

/-- **Loads that are repeated.**  Let a session that hands its failures on be told that modules have
loaded, and then once more that the same modules have loaded.  The second time leaves the table as
it is, in either mode.  With `abort` the session reports one failure the second time for each module
with an entry to wrap, and for no other. -/
theorem loads_repeated (engine : Engine) (interception : Interception) (id : SubscriptionId)
    (modules : List Module) (run : Run) (steady : engine.Steady) :
    let loads : List ModuleEvent := modules.map (.load · true)
    let once := interception.follow engine .report id loads run
    let twice := interception.follow engine .report id loads once
    twice.registrations = once.registrations ∧
    (interception.checks = .abort → ∃ reported,
      twice.journal.failures = once.journal.failures ++ reported ∧
      List.Forall₂ (Interception.Blames engine id once)
        (modules.filter fun m => (interception.entries engine m).Nonempty) reported) := by
  intro loads once twice
  have hspent : ∀ m ∈ modules, ∀ other, interception.Spent engine
      (interception.symbolsOf engine m other) once.registrations :=
    Interception.spent_follow_loads steady modules run
  exact ⟨Interception.follow_loads_registrations_of_spent hspent,
    fun habort => Interception.failures_follow_loads_of_spent steady habort hspent⟩

/-! ## Loads that are reported to all observers -/

namespace Observer

variable {engine : Engine} {modules : List Module} {table after : Registrations}

/-- An observer would leave a table as it is if it were told of loads of these modules. -/
def Idle (engine : Engine) (modules : List Module) (table : Registrations) : Observer → Prop
  | .watcher => True
  | .session interception _ => ∀ m ∈ modules, ∀ other,
      interception.Spent engine (interception.symbolsOf engine m other) table

lemma Idle.of_subset {observer : Observer} (h : observer.Idle engine modules table)
    (hgrow : ∀ key ∈ table, key ∈ after) : observer.Idle engine modules after := by
  cases observer with
  | watcher => trivial
  | session interception policy => exact fun m hm other => (h m hm other).of_subset hgrow

end Observer

namespace Run

variable {engine : Engine} {modules : List Module} {run : Run}

lemma receiveAll_loads_watcher (id : SubscriptionId) :
    (run.receiveAll engine (modules.map (.loaded · true)) (id, .watcher)).registrations =
      run.registrations :=
  receiveAll_of_receive (fun after => after.registrations = run.registrations)
    (fun _ _ _ hbefore => hbefore) rfl

lemma receiveAll_loads_session (id : SubscriptionId) (interception : Interception)
    (policy : FailurePolicy) :
    run.receiveAll engine (modules.map (.loaded · true)) (id, .session interception policy) =
      interception.follow engine policy id (modules.map (.load · true)) run := by
  rw [Interception.follow, List.map_map]
  rfl

/-- An observer that is told of loads lets the table grow, and is idle afterwards. -/
lemma idle_receiveAll (steady : engine.Steady) (modules : List Module)
    (subscriber : SubscriptionId × Observer) (run : Run) :
    (∀ key ∈ run.registrations, key ∈
      (run.receiveAll engine (modules.map (.loaded · true)) subscriber).registrations) ∧
    subscriber.2.Idle engine modules
      (run.receiveAll engine (modules.map (.loaded · true)) subscriber).registrations := by
  obtain ⟨id, observer⟩ := subscriber
  cases observer with
  | watcher =>
    rw [receiveAll_loads_watcher]
    exact ⟨fun _ hkey => hkey, trivial⟩
  | session interception policy =>
    rw [receiveAll_loads_session]
    exact ⟨Interception.follow_loads_subset modules run,
      Interception.spent_follow_loads steady modules run⟩

lemma receiveAll_loads_of_idle {subscriber : SubscriptionId × Observer}
    (h : subscriber.2.Idle engine modules run.registrations) :
    (run.receiveAll engine (modules.map (.loaded · true)) subscriber).registrations =
      run.registrations := by
  obtain ⟨id, observer⟩ := subscriber
  cases observer with
  | watcher => exact receiveAll_loads_watcher id
  | session interception policy =>
    rw [receiveAll_loads_session]
    exact Interception.follow_loads_registrations_of_spent h

/-- After all observers have been told of loads, each of them is idle. -/
lemma idle_foldl_receiveAll (steady : engine.Steady) (modules : List Module)
    (subscribers : List (SubscriptionId × Observer)) (run : Run) :
    let after := subscribers.foldl (receiveAll engine (modules.map (.loaded · true))) run
    (∀ key ∈ run.registrations, key ∈ after.registrations) ∧
      ∀ subscriber ∈ subscribers, subscriber.2.Idle engine modules after.registrations := by
  induction subscribers generalizing run with
  | nil => exact ⟨fun _ hkey => hkey, List.forall_mem_nil _⟩
  | cons subscriber subscribers ih =>
    obtain ⟨hgrow, hidle⟩ := idle_receiveAll steady modules subscriber run
    obtain ⟨hmore, hall⟩ := ih (run.receiveAll engine (modules.map (.loaded · true)) subscriber)
    exact ⟨fun key hkey => hmore key (hgrow key hkey),
      List.forall_mem_cons.2 ⟨hidle.of_subset hmore, hall⟩⟩

lemma foldl_receiveAll_of_idle {subscribers : List (SubscriptionId × Observer)}
    (h : ∀ subscriber ∈ subscribers, subscriber.2.Idle engine modules run.registrations) :
    (subscribers.foldl (receiveAll engine (modules.map (.loaded · true))) run).registrations =
      run.registrations := by
  induction subscribers generalizing run with
  | nil => rfl
  | cons subscriber subscribers ih =>
    rw [List.forall_mem_cons] at h
    have hsame := receiveAll_loads_of_idle h.1
    rw [List.foldl_cons, ih (by rw [hsame]; exact h.2), hsame]

/-- **Loads that are reported once more to all observers.**  However many sessions observe an
engine, and whatever their modes, reporting loads twice leaves the same table as reporting them
once. -/
theorem deliver_loads_twice (engine : Engine) (modules : List Module) (run : Run)
    (steady : engine.Steady) :
    let reports : List Lifecycle := modules.map (.loaded · true)
    ((run.deliver engine reports).deliver engine reports).registrations =
      (run.deliver engine reports).registrations := by
  intro reports
  obtain ⟨-, hidle⟩ := idle_foldl_receiveAll steady modules run.observers run
  refine foldl_receiveAll_of_idle fun subscriber hsubscriber => hidle subscriber ?_
  exact (run.deliver_onlyGivesBack engine reports).observers.subset hsubscriber

end Run

/-! ## Two libraries that load again -/

namespace LoadedAgain

open Undisciplined (app liba libb scenario)

def session : Interception := ⟨⟨false, some 0x1000⟩, .abort⟩

/-- The modules are reported as loaded. -/
def load (run : Run) : Run :=
  session.follow scenario.engine .report 0 ([app, liba, libb].map (.load · true)) run

def once : Run := load .start

end LoadedAgain

open Undisciplined LoadedAgain in
/-- The first library is given up at an address that the engine rejects, which makes room for the
second one.  When both load again, the second library is in the way of the first and of itself. -/
theorem failures_of_second_load :
    once.journal.failures = [(0, .wrapFailed "liba.so" "brk" (.rejected 0x2300 "reserved"))] ∧
      (load once).registrations = once.registrations ∧
      (load once).journal.failures = once.journal.failures ++
        [(0, .wrapFailed "liba.so" "open" (.alreadyWrapped 0x2100)),
          (0, .wrapFailed "libb.so" "open_fast" (.alreadyWrapped 0x2100))] := by
  obtain ⟨htable, hfailures⟩ := loads_repeated scenario.engine LoadedAgain.session 0
    [app, liba, libb] .start (Scenario.engine_steady (by decide))
  refine ⟨by decide +kernel, htable, ?_⟩
  obtain ⟨reported, hreported, hall⟩ := hfailures rfl
  have hloading : [app, liba, libb].filter
      (fun m => (LoadedAgain.session.entries scenario.engine m).Nonempty) = [liba, libb] := by
    decide +kernel
  rw [hloading] at hall
  obtain _ | ⟨⟨symbol, cause, hfirst, hcause, rfl⟩, hrest⟩ := hall
  obtain _ | ⟨⟨other, reason, hother, hreason, rfl⟩, _ | _⟩ := hrest
  have hopen : (scenario.engine.enumerate liba once).1.find?
      (fun symbol => ¬ scenario.engine.Wrappable once.registrations symbol.entry) =
        some ⟨"open", 0x2100, none⟩ := by decide +kernel
  have hfast : (scenario.engine.enumerate libb once).1.find?
      (fun symbol => ¬ scenario.engine.Wrappable once.registrations symbol.entry) =
        some ⟨"open_fast", 0x2100, some 0x3100⟩ := by decide +kernel
  obtain rfl := Option.some.inj (hfirst.symm.trans hopen)
  obtain rfl := Option.some.inj (hother.symm.trans hfast)
  have hfree : scenario.engine.refusesWrap 0x2100 = none := by decide
  cases hcause with
  | rejected hrefuses => cases hfree.symm.trans hrefuses
  | alreadyWrapped =>
    cases hreason with
    | rejected hrefuses => cases hfree.symm.trans hrefuses
    | alreadyWrapped => exact hreported

end CallTrace
