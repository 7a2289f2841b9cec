import CallTrace.Proofs.Enumeration

/-!
# What loads and unloads do to the table

An engine grants a wrap request for an address that it does not refuse by itself and that carries no
recorder (`Wrappable`), and an unwrap request for one that it does not refuse and that carries one
(`Unwrappable`).  A load and an unload are rows of such requests, one for each symbol of an
enumeration, and this file says what a row makes of the table as a whole.

For a load that succeeds the table afterwards is the table before, filled up by what the symbols
offer (`wrapAll_getElem?_of_ok`): a key that is taken keeps its registration, so no name is ever
overwritten.  A load that fails changes nothing outside the entries of its symbols
(`wrapAll_getElem?_of_not_mem`).

For an unload, failed or not, the table afterwards is the table before without the recorders at the
symbols that it has `cleared`.  With `ignore` these are all that can be unwrapped; with `abort` they
are those in front of the first that cannot.
-/

namespace CallTrace

/-- The key of the recorder at an address. -/
abbrev Key.recorder (pc : Address) : Key := ⟨pc, recorderId⟩

lemma Key.recorder_pc {key : Key} (h : key.hook = recorderId) : Key.recorder key.pc = key := by
  rw [Key.recorder, ← h]

namespace Registrations

lemma getElem?_insert (table : Registrations) (key other : Key) (registration : Registration) :
    (table.insert key registration)[other]? =
      if key = other then some registration else table[other]? := by
  rw [Std.ExtTreeMap.getElem?_insert]
  simp only [Std.LawfulEqCmp.compare_eq_iff_eq]

lemma getElem?_erase (table : Registrations) (key other : Key) :
    (table.erase key)[other]? = if key = other then none else table[other]? := by
  rw [Std.ExtTreeMap.getElem?_erase]
  simp only [Std.LawfulEqCmp.compare_eq_iff_eq]

lemma mem_iff_exists (table : Registrations) (key : Key) :
    key ∈ table ↔ ∃ registration, table[key]? = some registration := by
  rw [Std.ExtTreeMap.mem_iff_isSome_getElem?, Option.isSome_iff_exists]

lemma not_mem_iff (table : Registrations) (key : Key) : key ∉ table ↔ table[key]? = none := by
  rw [Std.ExtTreeMap.mem_iff_isSome_getElem?, Bool.not_eq_true, Option.isSome_eq_false_iff,
    Option.isNone_iff_eq_none]

lemma nodup_toList (table : Registrations) : table.toList.Nodup := by
  refine Std.ExtTreeMap.distinct_keys_toList.imp ?_
  rintro ⟨key, registration⟩ _ hne rfl
  exact hne Std.ReflCmp.compare_self

end Registrations

/-! ## One request -/

namespace Engine

variable (engine : Engine)

/-- A recorder at an address would be wrapped. -/
def Wrappable (table : Registrations) (pc : Address) : Prop :=
  engine.refusesWrap pc = none ∧ Key.recorder pc ∉ table

/-- The recorder at an address would be unwrapped. -/
def Unwrappable (table : Registrations) (pc : Address) : Prop :=
  engine.refusesUnwrap pc = none ∧ Key.recorder pc ∈ table

/-- The engine refuses nothing by itself: whether it grants a request is up to the table. -/
structure Obliging : Prop where
  wraps : ∀ pc, engine.refusesWrap pc = none
  unwraps : ∀ pc, engine.refusesUnwrap pc = none

instance (table : Registrations) (pc : Address) : Decidable (engine.Wrappable table pc) :=
  inferInstanceAs (Decidable (_ ∧ _))

instance (table : Registrations) (pc : Address) : Decidable (engine.Unwrappable table pc) :=
  inferInstanceAs (Decidable (_ ∧ _))

variable {engine} {run : Run} {pc : Address}

lemma wrap_granted (recorder : Recorder) (data : String)
    (h : engine.Wrappable run.registrations pc) :
    ∃ after, engine.wrap pc (.recorder recorder) data run = (none, after) ∧
      after.registrations =
        run.registrations.insert (Key.recorder pc) ⟨.recorder recorder, data⟩ := by
  have hnone : engine.wrapRefusal? run (Key.recorder pc) = none := by
    simp only [wrapRefusal?, h.1]
    exact if_neg h.2
  simp only [wrap, Hook.id, hnone]
  exact ⟨_, rfl, rfl⟩

lemma wrap_refused (recorder : Recorder) (data : String)
    (h : ¬ engine.Wrappable run.registrations pc) :
    ∃ cause after, engine.wrap pc (.recorder recorder) data run = (some cause, after) ∧
      after.registrations = run.registrations := by
  obtain ⟨cause, hcause⟩ :
      ∃ cause, engine.wrapRefusal? run (Key.recorder pc) = some cause := by
    cases hrefuses : engine.refusesWrap pc with
    | some reason => exact ⟨.rejected pc reason, by simp only [wrapRefusal?, hrefuses]⟩
    | none =>
      have hmem : Key.recorder pc ∈ run.registrations := by
        by_contra hnot
        exact h ⟨hrefuses, hnot⟩
      exact ⟨.alreadyWrapped pc, by simp only [wrapRefusal?, hrefuses]; exact if_pos hmem⟩
  simp only [wrap, Hook.id, hcause]
  exact ⟨_, _, rfl, rfl⟩

lemma unwrap_granted (h : engine.Unwrappable run.registrations pc) :
    ∃ after, engine.unwrap pc recorderId run = (none, after) ∧
      after.registrations = run.registrations.erase (Key.recorder pc) := by
  have hnone : engine.unwrapRefusal? run (Key.recorder pc) = none := by
    simp only [unwrapRefusal?, h.1]
    exact if_pos h.2
  simp only [unwrap, hnone]
  exact ⟨_, rfl, rfl⟩

lemma unwrap_refused (h : ¬ engine.Unwrappable run.registrations pc) :
    ∃ cause after, engine.unwrap pc recorderId run = (some cause, after) ∧
      after.registrations = run.registrations := by
  obtain ⟨cause, hcause⟩ :
      ∃ cause, engine.unwrapRefusal? run (Key.recorder pc) = some cause := by
    cases hrefuses : engine.refusesUnwrap pc with
    | some reason => exact ⟨.rejected pc reason, by simp only [unwrapRefusal?, hrefuses]⟩
    | none =>
      have hnot : Key.recorder pc ∉ run.registrations := fun hmem => h ⟨hrefuses, hmem⟩
      exact ⟨.notWrapped pc, by simp only [unwrapRefusal?, hrefuses]; exact if_neg hnot⟩
  simp only [unwrap, hcause]
  exact ⟨_, _, rfl, rfl⟩

lemma wrap_resolverCalls (engine : Engine) (pc : Address) (hook : Hook) (data : String)
    (run : Run) :
    (engine.wrap pc hook data run).2.resolverCalls = run.resolverCalls := by
  simp only [wrap]
  split <;> rfl

lemma unwrap_resolverCalls (engine : Engine) (pc : Address) (hook : HookId) (run : Run) :
    (engine.unwrap pc hook run).2.resolverCalls = run.resolverCalls := by
  simp only [unwrap]
  split <;> rfl

/-- Requests at other addresses do not change what can be wrapped here. -/
lemma wrappable_insert_of_ne {table : Registrations} {other : Address} (h : other ≠ pc)
    (registration : Registration) :
    engine.Wrappable (table.insert (Key.recorder other) registration) pc ↔
      engine.Wrappable table pc := by
  simp only [Wrappable, Registrations.not_mem_iff, Registrations.getElem?_insert, Key.mk.injEq,
    h, false_and, if_false]

lemma unwrappable_erase_of_ne {table : Registrations} {other : Address} (h : other ≠ pc) :
    engine.Unwrappable (table.erase (Key.recorder other)) pc ↔ engine.Unwrappable table pc := by
  simp only [Unwrappable, Registrations.mem_iff_exists, Registrations.getElem?_erase, Key.mk.injEq,
    h, false_and, if_false]

section Rest

variable {table : Registrations} {symbol other : ResolvedExport} {rest : List ResolvedExport}

/-- As entries are different, a request for one symbol changes nothing for those to come. -/
lemma wrappable_insert_of_mem (h : symbol.entry ∉ rest.map (·.entry)) (hother : other ∈ rest)
    (registration : Registration) :
    engine.Wrappable (table.insert (Key.recorder symbol.entry) registration) other.entry ↔
      engine.Wrappable table other.entry := by
  have hne : symbol.entry ≠ other.entry := fun heq => h (heq ▸ List.mem_map_of_mem hother)
  exact wrappable_insert_of_ne hne registration

lemma unwrappable_erase_of_mem (h : symbol.entry ∉ rest.map (·.entry)) (hother : other ∈ rest) :
    engine.Unwrappable (table.erase (Key.recorder symbol.entry)) other.entry ↔
      engine.Unwrappable table other.entry := by
  have hne : symbol.entry ≠ other.entry := fun heq => h (heq ▸ List.mem_map_of_mem hother)
  exact unwrappable_erase_of_ne hne

end Rest

end Engine

/-- A snapshot keeps registrations and refuses none by itself. -/
lemma Snapshot.engine_obliging (snapshot : Snapshot) : snapshot.engine.Obliging :=
  ⟨fun _ => rfl, fun _ => rfl⟩

namespace Interception

variable {interception : Interception} {engine : Engine} {m : Module}

/-! ## The steps of a load -/

section LoadSteps

variable (interception m) (installed : List Address) {symbol : ResolvedExport}
  (rest : List ResolvedExport) {run : Run}

lemma wrapAll_cons_granted (h : engine.Wrappable run.registrations symbol.entry) :
    ∃ after, interception.wrapAll engine m installed (symbol :: rest) run =
        interception.wrapAll engine m (installed ++ [symbol.entry]) rest after ∧
      after.registrations = run.registrations.insert (Key.recorder symbol.entry)
        ⟨.recorder interception.recorder, symbol.name⟩ := by
  obtain ⟨after, hafter, htable⟩ := Engine.wrap_granted interception.recorder symbol.name h
  simp only [wrapAll, hafter]
  exact ⟨_, rfl, htable⟩

lemma wrapAll_cons_ignored (hchecks : interception.checks = .ignore)
    (h : ¬ engine.Wrappable run.registrations symbol.entry) :
    ∃ after, interception.wrapAll engine m installed (symbol :: rest) run =
        interception.wrapAll engine m installed rest after ∧
      after.registrations = run.registrations := by
  obtain ⟨cause, after, hafter, htable⟩ :=
    Engine.wrap_refused interception.recorder symbol.name h
  simp only [wrapAll, hafter, hchecks]
  exact ⟨_, rfl, htable⟩

lemma wrapAll_cons_aborted (hchecks : interception.checks = .abort)
    (h : ¬ engine.Wrappable run.registrations symbol.entry) :
    ∃ cause after, interception.wrapAll engine m installed (symbol :: rest) run =
        (.error (.wrapFailed m.name symbol.name cause), rollBack engine m installed after) ∧
      after.registrations = run.registrations := by
  obtain ⟨cause, after, hafter, htable⟩ :=
    Engine.wrap_refused interception.recorder symbol.name h
  exact ⟨cause, after, by simp only [wrapAll, hafter, hchecks], htable⟩

end LoadSteps

/-! ## Loads -/

/-- What a load has to put under a key: the recorder with the name of the symbol there, unless the
engine refuses the address. -/
def offer (interception : Interception) (engine : Engine) (symbols : List ResolvedExport)
    (key : Key) : Option Registration :=
  if key.hook = recorderId ∧ engine.refusesWrap key.pc = none then
    (symbols.find? (·.entry = key.pc)).map fun symbol =>
      ⟨.recorder interception.recorder, symbol.name⟩
  else none

lemma offer_cons_self {symbol : ResolvedExport} (rest : List ResolvedExport)
    (h : engine.refusesWrap symbol.entry = none) :
    interception.offer engine (symbol :: rest) (Key.recorder symbol.entry) =
      some ⟨.recorder interception.recorder, symbol.name⟩ := by
  simp [offer, h]

lemma offer_cons_of_ne {symbol : ResolvedExport} (rest : List ResolvedExport) {key : Key}
    (h : Key.recorder symbol.entry ≠ key) :
    interception.offer engine (symbol :: rest) key = interception.offer engine rest key := by
  unfold offer
  by_cases hkey : key.hook = recorderId ∧ engine.refusesWrap key.pc = none
  · have hne : symbol.entry ≠ key.pc := by
      intro hpc
      apply h
      rw [hpc, Key.recorder_pc hkey.1]
    rw [if_pos hkey, if_pos hkey, List.find?_cons_of_neg (by simpa using hne)]
  · rw [if_neg hkey, if_neg hkey]

/-- A symbol that cannot be wrapped has nothing to offer that is not refused or taken. -/
lemma or_offer_cons_of_not_wrappable {symbol : ResolvedExport} (rest : List ResolvedExport)
    {table : Registrations} (h : ¬ engine.Wrappable table symbol.entry) (key : Key) :
    table[key]?.or (interception.offer engine (symbol :: rest) key) =
      table[key]?.or (interception.offer engine rest key) := by
  by_cases hkey : Key.recorder symbol.entry = key
  · subst hkey
    by_cases hrefuses : engine.refusesWrap symbol.entry = none
    · have hmem : Key.recorder symbol.entry ∈ table := by
        by_contra hnot
        exact h ⟨hrefuses, hnot⟩
      obtain ⟨registration, hregistration⟩ := (Registrations.mem_iff_exists _ _).1 hmem
      rw [hregistration, Option.some_or, Option.some_or]
    · simp [offer, hrefuses]
  · rw [offer_cons_of_ne rest hkey]

/-- A load that succeeds fills the table up by what its symbols offer. -/
lemma wrapAll_getElem?_of_ok {installed : List Address} {symbols : List ResolvedExport}
    {run : Run} {n : Nat} (h : (interception.wrapAll engine m installed symbols run).1 = .ok n)
    (key : Key) :
    (interception.wrapAll engine m installed symbols run).2.registrations[key]? =
      run.registrations[key]?.or (interception.offer engine symbols key) := by
  induction symbols generalizing installed run with
  | nil => simp [wrapAll, offer, Run.note, Run.enter]
  | cons symbol rest ih =>
    by_cases hwrap : engine.Wrappable run.registrations symbol.entry
    · obtain ⟨after, hstep, htable⟩ :=
        wrapAll_cons_granted interception m installed rest hwrap
      rw [hstep] at h ⊢
      rw [ih h, htable, Registrations.getElem?_insert]
      by_cases hkey : Key.recorder symbol.entry = key
      · subst hkey
        rw [if_pos rfl, offer_cons_self rest hwrap.1,
          (Registrations.not_mem_iff _ _).1 hwrap.2, Option.some_or, Option.none_or]
      · rw [if_neg hkey, offer_cons_of_ne rest hkey]
    · cases hchecks : interception.checks with
      | abort =>
        obtain ⟨cause, after, hstep, -⟩ :=
          wrapAll_cons_aborted interception m installed rest hchecks hwrap
        simp [hstep] at h
      | ignore =>
        obtain ⟨after, hstep, htable⟩ :=
          wrapAll_cons_ignored interception m installed rest hchecks hwrap
        rw [hstep] at h ⊢
        rw [ih h, htable, or_offer_cons_of_not_wrappable rest hwrap]

/-- A load succeeds if refusals are ignored or none comes up, and then it answers how many of its
symbols could be wrapped. -/
lemma wrapAll_fst {installed : List Address} {symbols : List ResolvedExport} {run : Run}
    (hnodup : (symbols.map (·.entry)).Nodup)
    (h : interception.checks = .ignore ∨
      ∀ symbol ∈ symbols, engine.Wrappable run.registrations symbol.entry) :
    (interception.wrapAll engine m installed symbols run).1 = .ok (installed.length +
      symbols.countP fun symbol => engine.Wrappable run.registrations symbol.entry) := by
  induction symbols generalizing installed run with
  | nil => simp [wrapAll]
  | cons symbol rest ih =>
    rw [List.map_cons, List.nodup_cons] at hnodup
    by_cases hwrap : engine.Wrappable run.registrations symbol.entry
    · obtain ⟨after, hstep, htable⟩ :=
        wrapAll_cons_granted interception m installed rest hwrap
      have hsame : ∀ other ∈ rest, engine.Wrappable after.registrations other.entry ↔
          engine.Wrappable run.registrations other.entry := by
        intro other hother
        rw [htable, Engine.wrappable_insert_of_mem hnodup.1 hother]
      have hrest : interception.checks = .ignore ∨
          ∀ other ∈ rest, engine.Wrappable after.registrations other.entry :=
        h.imp_right fun hall other hother =>
          (hsame other hother).2 (hall other (List.mem_cons_of_mem _ hother))
      have hcount : rest.countP (fun other => engine.Wrappable after.registrations other.entry) =
          rest.countP fun other => engine.Wrappable run.registrations other.entry :=
        List.countP_congr fun other hother => by simpa using hsame other hother
      rw [hstep, ih hnodup.2 hrest, hcount, List.countP_cons_of_pos (by simpa using hwrap),
        List.length_append, List.length_singleton, Nat.add_assoc, Nat.add_comm 1]
    · rcases h with hignore | hall
      · obtain ⟨after, hstep, htable⟩ :=
          wrapAll_cons_ignored interception m installed rest hignore hwrap
        rw [hstep, ih hnodup.2 (.inl hignore), htable,
          List.countP_cons_of_neg (by simpa using hwrap)]
      · exact absurd (hall symbol List.mem_cons_self) hwrap

/-- With `abort` a load succeeds only if every symbol can be wrapped. -/
lemma wrappable_of_wrapAll_ok {installed : List Address}
    {symbols : List ResolvedExport} {run : Run} {n : Nat} (habort : interception.checks = .abort)
    (hnodup : (symbols.map (·.entry)).Nodup)
    (hok : (interception.wrapAll engine m installed symbols run).1 = .ok n) :
    ∀ symbol ∈ symbols, engine.Wrappable run.registrations symbol.entry := by
  induction symbols generalizing installed run with
  | nil => simp
  | cons symbol rest ih =>
    rw [List.map_cons, List.nodup_cons] at hnodup
    by_cases hwrap : engine.Wrappable run.registrations symbol.entry
    · obtain ⟨after, hstep, htable⟩ :=
        wrapAll_cons_granted interception m installed rest hwrap
      rw [hstep] at hok
      have hrest := ih hnodup.2 hok
      rw [List.forall_mem_cons]
      refine ⟨hwrap, fun other hother => ?_⟩
      have hwrapOther := hrest other hother
      rwa [htable, Engine.wrappable_insert_of_mem hnodup.1 hother] at hwrapOther
    · obtain ⟨cause, after, hstep, -⟩ :=
        wrapAll_cons_aborted interception m installed rest habort hwrap
      simp [hstep] at hok

lemma rollBack_getElem?_of_not_mem {installed : List Address} {run : Run} {key : Key}
    (h : key.hook ≠ recorderId ∨ key.pc ∉ installed) :
    (rollBack engine m installed run).registrations[key]? = run.registrations[key]? := by
  -- The notice at the end leaves the table alone; the induction is on what is taken back.
  change (List.foldl _ run installed).registrations[key]? = _
  induction installed generalizing run with
  | nil => rfl
  | cons pc rest ih =>
    have hne : Key.recorder pc ≠ key := by
      rintro rfl
      simp at h
    have hrest : key.hook ≠ recorderId ∨ key.pc ∉ rest :=
      h.imp_right fun hnot hmem => hnot (List.mem_cons_of_mem _ hmem)
    rw [List.foldl_cons, ih hrest]
    by_cases hunwrap : engine.Unwrappable run.registrations pc
    · obtain ⟨after, hafter, htable⟩ := Engine.unwrap_granted hunwrap
      simp only [hafter, htable]
      rw [Registrations.getElem?_erase, if_neg hne]
    · obtain ⟨cause, after, hafter, htable⟩ := Engine.unwrap_refused hunwrap
      simp only [hafter, Run.note, Run.enter, htable]

/-- Whether it succeeds or not, a load leaves alone what is not a recorder at one of its symbols. -/
lemma wrapAll_getElem?_of_not_mem {installed : List Address} {symbols : List ResolvedExport}
    {run : Run} {key : Key}
    (h : key.hook ≠ recorderId ∨ key.pc ∉ installed ++ symbols.map (·.entry)) :
    (interception.wrapAll engine m installed symbols run).2.registrations[key]? =
      run.registrations[key]? := by
  induction symbols generalizing installed run with
  | nil => rfl
  | cons symbol rest ih =>
    have hinstalled : key.hook ≠ recorderId ∨ key.pc ∉ installed :=
      h.imp_right fun hnot hmem => hnot (List.mem_append_left _ hmem)
    have hrest : key.hook ≠ recorderId ∨ key.pc ∉ installed ++ rest.map (·.entry) :=
      h.imp_right fun hnot hmem => hnot (by
        rw [List.map_cons, List.mem_append, List.mem_cons]
        exact (List.mem_append.1 hmem).imp_right .inr)
    by_cases hwrap : engine.Wrappable run.registrations symbol.entry
    · obtain ⟨after, hstep, htable⟩ :=
        wrapAll_cons_granted interception m installed rest hwrap
      have hne : Key.recorder symbol.entry ≠ key := by
        rintro rfl
        simp at h
      rw [hstep, ih (by simpa using h), htable, Registrations.getElem?_insert, if_neg hne]
    · cases hchecks : interception.checks with
      | abort =>
        obtain ⟨cause, after, hstep, htable⟩ :=
          wrapAll_cons_aborted interception m installed rest hchecks hwrap
        rw [hstep, rollBack_getElem?_of_not_mem hinstalled, htable]
      | ignore =>
        obtain ⟨after, hstep, htable⟩ :=
          wrapAll_cons_ignored interception m installed rest hchecks hwrap
        rw [hstep, ih hrest, htable]

lemma rollBack_resolverCalls (installed : List Address) (run : Run) :
    (rollBack engine m installed run).resolverCalls = run.resolverCalls := by
  change (List.foldl _ run installed).resolverCalls = _
  induction installed generalizing run with
  | nil => rfl
  | cons pc rest ih =>
    have hcalls := engine.unwrap_resolverCalls pc recorderId run
    rw [List.foldl_cons, ih]
    split <;> rename_i heq <;> rw [heq] at hcalls <;> exact hcalls

/-- Only enumeration calls resolvers. -/
lemma wrapAll_resolverCalls (installed : List Address) (symbols : List ResolvedExport)
    (run : Run) :
    (interception.wrapAll engine m installed symbols run).2.resolverCalls =
      run.resolverCalls := by
  induction symbols generalizing installed run with
  | nil => rfl
  | cons symbol rest ih =>
    have hcalls := engine.wrap_resolverCalls symbol.entry (.recorder interception.recorder)
      symbol.name run
    simp only [wrapAll]
    split <;> rename_i heq <;> rw [heq] at hcalls
    · exact (ih _ _).trans hcalls
    · cases interception.checks with
      | abort => exact (rollBack_resolverCalls _ _).trans hcalls
      | ignore => exact (ih _ _).trans hcalls

/-! ## The steps of an unload -/

section UnloadSteps

variable (interception m) (removed : Nat) {symbol : ResolvedExport} (rest : List ResolvedExport)
  {run : Run}

lemma unwrapAll_cons_granted (h : engine.Unwrappable run.registrations symbol.entry) :
    ∃ after, interception.unwrapAll engine m removed (symbol :: rest) run =
        interception.unwrapAll engine m (removed + 1) rest after ∧
      after.registrations = run.registrations.erase (Key.recorder symbol.entry) := by
  obtain ⟨after, hafter, htable⟩ := Engine.unwrap_granted h
  simp only [unwrapAll, hafter]
  exact ⟨_, rfl, htable⟩

lemma unwrapAll_cons_ignored (hchecks : interception.checks = .ignore)
    (h : ¬ engine.Unwrappable run.registrations symbol.entry) :
    ∃ after, interception.unwrapAll engine m removed (symbol :: rest) run =
        interception.unwrapAll engine m removed rest after ∧
      after.registrations = run.registrations := by
  obtain ⟨cause, after, hafter, htable⟩ := Engine.unwrap_refused h
  simp only [unwrapAll, hafter, hchecks]
  exact ⟨_, rfl, htable⟩

lemma unwrapAll_cons_aborted (hchecks : interception.checks = .abort)
    (h : ¬ engine.Unwrappable run.registrations symbol.entry) :
    ∃ cause after, interception.unwrapAll engine m removed (symbol :: rest) run =
        (.error (.unwrapFailed m.name symbol.name cause), after) ∧
      after.registrations = run.registrations := by
  obtain ⟨cause, after, hafter, htable⟩ := Engine.unwrap_refused h
  exact ⟨cause, after, by simp only [unwrapAll, hafter, hchecks], htable⟩

end UnloadSteps

/-! ## Unloads -/

/-- The symbols whose recorders an unload takes out of a table: all that can be unwrapped, under
`abort` only up to the first that cannot. -/
def cleared (interception : Interception) (engine : Engine) (table : Registrations)
    (symbols : List ResolvedExport) : List ResolvedExport :=
  match interception.checks with
  | .ignore => symbols.filter fun symbol => engine.Unwrappable table symbol.entry
  | .abort => symbols.takeWhile fun symbol => engine.Unwrappable table symbol.entry

@[simp] lemma cleared_nil (table : Registrations) : interception.cleared engine table [] = [] := by
  unfold cleared
  cases interception.checks <;> rfl

section ClearedSteps

variable {symbol : ResolvedExport} (rest : List ResolvedExport) {table : Registrations}

lemma cleared_cons_granted (h : engine.Unwrappable table symbol.entry) :
    interception.cleared engine table (symbol :: rest) =
      symbol :: interception.cleared engine table rest := by
  unfold cleared
  cases interception.checks with
  | abort => exact List.takeWhile_cons_of_pos (by simpa using h)
  | ignore => exact List.filter_cons_of_pos (by simpa using h)

lemma cleared_cons_aborted (hchecks : interception.checks = .abort)
    (h : ¬ engine.Unwrappable table symbol.entry) :
    interception.cleared engine table (symbol :: rest) = [] := by
  simp only [cleared, hchecks]
  exact List.takeWhile_cons_of_neg (by simpa using h)

lemma cleared_cons_ignored (hchecks : interception.checks = .ignore)
    (h : ¬ engine.Unwrappable table symbol.entry) :
    interception.cleared engine table (symbol :: rest) =
      interception.cleared engine table rest := by
  simp only [cleared, hchecks]
  exact List.filter_cons_of_neg (by simpa using h)

end ClearedSteps

/-- An unload clears what can be unwrapped; under `abort` everything in front of it has to be
cleared too. -/
lemma mem_map_cleared {table : Registrations} {symbols : List ResolvedExport} {pc : Address} :
    pc ∈ (interception.cleared engine table symbols).map (·.entry) ↔
      pc ∈ symbols.map (·.entry) ∧ engine.Unwrappable table pc ∧
        (interception.checks = .abort →
          ∀ other ∈ (symbols.map (·.entry)).takeWhile (· ≠ pc),
            engine.Unwrappable table other) := by
  induction symbols with
  | nil => simp
  | cons symbol rest ih =>
    by_cases hpc : symbol.entry = pc
    · subst hpc
      rw [List.map_cons, List.takeWhile_cons_of_neg (by simp)]
      by_cases hunwrap : engine.Unwrappable table symbol.entry
      · simp [cleared_cons_granted rest hunwrap, hunwrap]
      · cases hchecks : interception.checks with
        | abort => simp [cleared_cons_aborted rest hchecks hunwrap, hunwrap]
        | ignore => simp [cleared_cons_ignored rest hchecks hunwrap, ih, hunwrap]
    · rw [List.map_cons, List.takeWhile_cons_of_pos (by simpa using hpc), List.mem_cons,
        or_iff_right (Ne.symm hpc), List.forall_mem_cons]
      by_cases hunwrap : engine.Unwrappable table symbol.entry
      · rw [cleared_cons_granted rest hunwrap, List.map_cons, List.mem_cons,
          or_iff_right (Ne.symm hpc), ih, and_iff_right hunwrap]
      · cases hchecks : interception.checks with
        | abort => simp [cleared_cons_aborted rest hchecks hunwrap, hunwrap]
        | ignore => rw [cleared_cons_ignored rest hchecks hunwrap, ih, hchecks]; simp

/-- What an unload clears depends on its own symbols only. -/
lemma cleared_congr {table table' : Registrations} {symbols : List ResolvedExport}
    (h : ∀ symbol ∈ symbols, engine.Unwrappable table symbol.entry ↔
      engine.Unwrappable table' symbol.entry) :
    interception.cleared engine table symbols = interception.cleared engine table' symbols := by
  induction symbols with
  | nil => simp
  | cons symbol rest ih =>
    have hrest := ih fun other hother => h other (List.mem_cons_of_mem _ hother)
    have hhead := h symbol List.mem_cons_self
    by_cases hunwrap : engine.Unwrappable table symbol.entry
    · rw [cleared_cons_granted rest hunwrap, cleared_cons_granted rest (hhead.1 hunwrap), hrest]
    · have hunwrap' : ¬ engine.Unwrappable table' symbol.entry := mt hhead.2 hunwrap
      cases hchecks : interception.checks with
      | abort =>
        rw [cleared_cons_aborted rest hchecks hunwrap, cleared_cons_aborted rest hchecks hunwrap']
      | ignore =>
        rw [cleared_cons_ignored rest hchecks hunwrap, cleared_cons_ignored rest hchecks hunwrap',
          hrest]

/-- After an erasure the symbols at other addresses are cleared as before. -/
lemma cleared_erase {symbol : ResolvedExport} {rest : List ResolvedExport}
    (table : Registrations) (h : symbol.entry ∉ rest.map (·.entry)) :
    interception.cleared engine (table.erase (Key.recorder symbol.entry)) rest =
      interception.cleared engine table rest := by
  apply cleared_congr
  intro other hother
  exact Engine.unwrappable_erase_of_mem h hother

/-- An unload takes out the recorders at the symbols it clears, and nothing else. -/
lemma unwrapAll_getElem? {removed : Nat} {symbols : List ResolvedExport} {run : Run}
    (hnodup : (symbols.map (·.entry)).Nodup) (key : Key) :
    (interception.unwrapAll engine m removed symbols run).2.registrations[key]? =
      if key.hook = recorderId ∧
          key.pc ∈ (interception.cleared engine run.registrations symbols).map (·.entry)
      then none else run.registrations[key]? := by
  induction symbols generalizing removed run with
  | nil => simp [unwrapAll, Run.note, Run.enter]
  | cons symbol rest ih =>
    rw [List.map_cons, List.nodup_cons] at hnodup
    by_cases hunwrap : engine.Unwrappable run.registrations symbol.entry
    · obtain ⟨after, hstep, htable⟩ :=
        unwrapAll_cons_granted interception m removed rest hunwrap
      rw [hstep, ih hnodup.2, htable, cleared_erase _ hnodup.1,
        cleared_cons_granted rest hunwrap, Registrations.getElem?_erase, List.map_cons]
      by_cases hkey : Key.recorder symbol.entry = key
      · subst hkey
        simp
      · have hne : key.hook = recorderId → key.pc ≠ symbol.entry := by
          intro hhook hpc
          exact hkey (by rw [← hpc, Key.recorder_pc hhook])
        rw [if_neg hkey]
        by_cases hhook : key.hook = recorderId
        · simp [hhook, hne hhook]
        · simp [hhook]
    · cases hchecks : interception.checks with
      | abort =>
        obtain ⟨cause, after, hstep, htable⟩ :=
          unwrapAll_cons_aborted interception m removed rest hchecks hunwrap
        rw [hstep, cleared_cons_aborted rest hchecks hunwrap, htable, List.map_nil,
          if_neg (by simp)]
      | ignore =>
        obtain ⟨after, hstep, htable⟩ :=
          unwrapAll_cons_ignored interception m removed rest hchecks hunwrap
        rw [hstep, ih hnodup.2, htable, cleared_cons_ignored rest hchecks hunwrap]

/-- An unload succeeds if refusals are ignored or none comes up, and not otherwise; then it answers
how many symbols it has cleared. -/
lemma unwrapAll_fst_eq_ok_iff {removed : Nat} {symbols : List ResolvedExport} {run : Run} {n : Nat}
    (hnodup : (symbols.map (·.entry)).Nodup) :
    (interception.unwrapAll engine m removed symbols run).1 = .ok n ↔
      (interception.checks = .ignore ∨
        ∀ symbol ∈ symbols, engine.Unwrappable run.registrations symbol.entry) ∧
      n = removed + (interception.cleared engine run.registrations symbols).length := by
  induction symbols generalizing removed run with
  | nil => simp [unwrapAll, eq_comm]
  | cons symbol rest ih =>
    rw [List.map_cons, List.nodup_cons] at hnodup
    by_cases hunwrap : engine.Unwrappable run.registrations symbol.entry
    · obtain ⟨after, hstep, htable⟩ :=
        unwrapAll_cons_granted interception m removed rest hunwrap
      have hsame : (∀ other ∈ rest, engine.Unwrappable after.registrations other.entry) ↔
          ∀ other ∈ symbol :: rest, engine.Unwrappable run.registrations other.entry := by
        rw [List.forall_mem_cons, and_iff_right hunwrap]
        refine forall₂_congr fun other hother => ?_
        rw [htable, Engine.unwrappable_erase_of_mem hnodup.1 hother]
      rw [hstep, ih hnodup.2, hsame, htable, cleared_erase _ hnodup.1,
        cleared_cons_granted rest hunwrap, List.length_cons, Nat.add_assoc, Nat.add_comm 1]
    · cases hchecks : interception.checks with
      | abort =>
        obtain ⟨cause, after, hstep, -⟩ :=
          unwrapAll_cons_aborted interception m removed rest hchecks hunwrap
        simp [hstep, hunwrap]
      | ignore =>
        obtain ⟨after, hstep, htable⟩ :=
          unwrapAll_cons_ignored interception m removed rest hchecks hunwrap
        rw [hstep, ih hnodup.2, htable, cleared_cons_ignored rest hchecks hunwrap, hchecks]
        simp

end Interception

end CallTrace
