import CallTrace.Proofs.Wrapping
import CallTrace.Scenario

/-!
# Loads are all or nothing

Under `abort` a load either wraps every entry of its module or leaves the table as it was
(`load_all_or_nothing`).  This holds for every table and for whatever addresses the engine refuses
to wrap, and the refusal that is reported is that of the first entry that cannot be wrapped.

A load that is given up takes back the addresses that it has wrapped.  This takes back neither more
nor less than the load has put there: a request is granted only where there is no recorder yet, so
taking the recorders out again leads back to the table of the beginning (`without_insert`), and no
entry comes twice, so what is refused is refused for a reason that was there before the load.
-/

namespace CallTrace

/-! ## Tables without some recorders -/

namespace Registrations

/-- The table without the recorders at some addresses. -/
def without (table : Registrations) (addresses : List Address) : Registrations :=
  table.filter fun key _ => ¬ (key.hook = recorderId ∧ key.pc ∈ addresses)

lemma getElem?_without (table : Registrations) (addresses : List Address) (key : Key) :
    (table.without addresses)[key]? =
      if key.hook = recorderId ∧ key.pc ∈ addresses then none else table[key]? := by
  rw [without, Std.ExtTreeMap.getElem?_filter]
  simp only [Std.ExtTreeMap.getKey_eq, Option.pfilter_eq_filter]
  cases table[key]? <;> split <;> simp_all

lemma without_nil (table : Registrations) : table.without [] = table :=
  Std.ExtTreeMap.ext_getElem? fun key => by simp [getElem?_without]

lemma without_erase (table : Registrations) (pc : Address) (addresses : List Address) :
    without (table.erase (Key.recorder pc)) addresses = table.without (pc :: addresses) := by
  refine Std.ExtTreeMap.ext_getElem? fun key => ?_
  rw [getElem?_without, getElem?_without, getElem?_erase]
  by_cases hkey : Key.recorder pc = key
  · subst hkey
    simp
  · have hne : key.hook = recorderId → key.pc ≠ pc := fun hhook hpc =>
      hkey (hpc ▸ Key.recorder_pc hhook)
    by_cases hhook : key.hook = recorderId
    · simp [hkey, hhook, hne hhook]
    · simp [hkey, hhook]

/-- Where there is no recorder to take out, nothing changes. -/
lemma without_of_not_mem {table : Registrations} {pc : Address} (h : Key.recorder pc ∉ table)
    (addresses : List Address) : table.without (pc :: addresses) = table.without addresses := by
  have herase : table.erase (Key.recorder pc) = table :=
    Std.ExtTreeMap.ext_getElem? fun key => by
      rw [getElem?_erase]
      split
      · rename_i hkey
        exact ((not_mem_iff _ _).1 (hkey ▸ h)).symm
      · rfl
  rw [← without_erase, herase]

/-- A recorder that has been put where there was none can be taken out again. -/
lemma without_insert {table after : Registrations} {pc : Address} {addresses : List Address}
    {registration : Registration} (hpc : Key.recorder pc ∉ table)
    (h : after.without addresses = table.insert (Key.recorder pc) registration) :
    after.without (pc :: addresses) = table := by
  refine Std.ExtTreeMap.ext_getElem? fun key => ?_
  have hkey := congrArg (·[key]?) h
  simp only [getElem?_without, getElem?_insert] at hkey
  rw [getElem?_without]
  by_cases hsame : Key.recorder pc = key
  · subst hsame
    rw [if_pos ⟨rfl, List.mem_cons_self⟩, (not_mem_iff _ _).1 hpc]
  · rw [if_neg hsame] at hkey
    have hne : key.hook = recorderId → key.pc ≠ pc := fun hhook heq =>
      hsame (heq ▸ Key.recorder_pc hhook)
    rw [← hkey]
    refine if_congr (and_congr_right fun hhook => ?_) rfl rfl
    rw [List.mem_cons, or_iff_right (hne hhook)]

/-- Taking recorders out makes no difference at other addresses. -/
lemma mem_of_without_eq {table after : Registrations} {addresses : List Address}
    (h : after.without addresses = table) {pc : Address} (hpc : pc ∉ addresses) :
    Key.recorder pc ∈ after ↔ Key.recorder pc ∈ table := by
  rw [mem_iff_exists, mem_iff_exists, ← h, getElem?_without, if_neg fun hmem => hpc hmem.2]

end Registrations

/-! ## Refusals -/

namespace Engine

/-- Why the recorder at an address is not wrapped: the engine rejects the address by itself, or else
there is a recorder already. -/
inductive WrapRefusal (engine : Engine) (table : Registrations) (pc : Address) : WrapError → Prop
  | rejected {reason : String} : engine.refusesWrap pc = some reason →
      engine.WrapRefusal table pc (.rejected pc reason)
  | alreadyWrapped : engine.refusesWrap pc = none → Key.recorder pc ∈ table →
      engine.WrapRefusal table pc (.alreadyWrapped pc)

variable {engine : Engine} {table after : Registrations} {run : Run} {pc : Address}
  {cause : WrapError}

lemma exists_wrapRefusal (h : ¬ engine.Wrappable table pc) :
    ∃ cause, engine.WrapRefusal table pc cause := by
  cases hrefuses : engine.refusesWrap pc with
  | some reason => exact ⟨_, .rejected hrefuses⟩
  | none =>
    have hmem : Key.recorder pc ∈ table := by
      by_contra hnot
      exact h ⟨hrefuses, hnot⟩
    exact ⟨_, .alreadyWrapped hrefuses hmem⟩

lemma WrapRefusal.of_mem_iff (h : engine.WrapRefusal table pc cause)
    (hmem : Key.recorder pc ∈ after ↔ Key.recorder pc ∈ table) :
    engine.WrapRefusal after pc cause := by
  cases h with
  | rejected hrefuses => exact .rejected hrefuses
  | alreadyWrapped hrefuses hthere => exact .alreadyWrapped hrefuses (hmem.2 hthere)

lemma WrapRefusal.wrapRefusal?_eq (h : engine.WrapRefusal run.registrations pc cause) :
    engine.wrapRefusal? run (Key.recorder pc) = some cause := by
  cases h with
  | rejected hrefuses => simp only [wrapRefusal?, hrefuses]
  | alreadyWrapped hrefuses hmem =>
    simp only [wrapRefusal?, hrefuses]
    exact if_pos hmem

lemma wrap_of_wrapRefusal (h : engine.WrapRefusal run.registrations pc cause) (recorder : Recorder)
    (data : String) :
    ∃ after, engine.wrap pc (.recorder recorder) data run = (some cause, after) ∧
      after.registrations = run.registrations := by
  have hcause := h.wrapRefusal?_eq
  simp only [wrap, Hook.id, hcause]
  exact ⟨_, rfl, rfl⟩

end Engine

namespace Interception

variable {interception : Interception} {engine : Engine} {m : Module} {run : Run}

/-! ## Taking back -/

/-- What is taken back is gone, except where the engine refuses that by itself. -/
lemma rollBack_registrations_eq (installed : List Address) (run : Run) :
    (rollBack engine m installed run).registrations =
      run.registrations.without (installed.filter fun pc => engine.refusesUnwrap pc = none) := by
  -- The notice at the end leaves the table alone; the induction is on what is taken back.
  show (List.foldl _ run installed).registrations = _
  induction installed generalizing run with
  | nil => exact run.registrations.without_nil.symm
  | cons pc rest ih =>
    rw [List.foldl_cons, ih]
    by_cases hunwraps : engine.refusesUnwrap pc = none
    · rw [List.filter_cons_of_pos (by simpa using hunwraps)]
      by_cases hmem : Key.recorder pc ∈ run.registrations
      · obtain ⟨after, hafter, htable⟩ := Engine.unwrap_granted ⟨hunwraps, hmem⟩
        simp only [hafter, htable]
        exact run.registrations.without_erase pc _
      · have hrefused : ¬ engine.Unwrappable run.registrations pc := fun hunwrap => hmem hunwrap.2
        obtain ⟨cause, after, hafter, htable⟩ := Engine.unwrap_refused hrefused
        simp only [hafter, Run.note, Run.enter, htable]
        exact (Registrations.without_of_not_mem hmem _).symm
    · have hrefused : ¬ engine.Unwrappable run.registrations pc := fun hunwrap =>
        hunwraps hunwrap.1
      obtain ⟨cause, after, hafter, htable⟩ := Engine.unwrap_refused hrefused
      rw [List.filter_cons_of_neg (by simpa using hunwraps)]
      simp only [hafter, Run.note, Run.enter, htable]

/-! ## The symbols in front of a refusal -/

/-- A load gets through symbols that can be wrapped.  It has put a recorder at each of them, and
these are all that keeps the table from being what it was. -/
lemma wrapAll_append (interception : Interception) (m : Module) (installed : List Address)
    {front : List ResolvedExport} (back : List ResolvedExport)
    (hnodup : (front.map (·.entry)).Nodup)
    (hfront : ∀ symbol ∈ front, engine.Wrappable run.registrations symbol.entry) :
    ∃ after, interception.wrapAll engine m installed (front ++ back) run =
        interception.wrapAll engine m (installed ++ front.map (·.entry)) back after ∧
      (∀ symbol ∈ front, Key.recorder symbol.entry ∈ after.registrations) ∧
      after.registrations.without (front.map (·.entry)) = run.registrations := by
  induction front generalizing installed run with
  | nil =>
    refine ⟨run, ?_, by simp, run.registrations.without_nil⟩
    rw [List.nil_append, List.map_nil, List.append_nil]
  | cons symbol front ih =>
    rw [List.map_cons, List.nodup_cons] at hnodup
    rw [List.forall_mem_cons] at hfront
    obtain ⟨granted, hstep, htable⟩ :=
      wrapAll_cons_granted interception m installed (front ++ back) hfront.1
    have hrest : ∀ other ∈ front, engine.Wrappable granted.registrations other.entry := by
      intro other hother
      rw [htable, Engine.wrappable_insert_of_mem hnodup.1 hother]
      exact hfront.2 other hother
    obtain ⟨after, hafter, hthere, hwithout⟩ := ih (installed ++ [symbol.entry]) hnodup.2 hrest
    have hself : Key.recorder symbol.entry ∈ after.registrations := by
      rw [Registrations.mem_of_without_eq hwithout hnodup.1, htable]
      exact Std.ExtTreeMap.mem_insert_self
    refine ⟨after, ?_, List.forall_mem_cons.2 ⟨hself, hthere⟩,
      Registrations.without_insert hfront.1.2 (hwithout.trans htable)⟩
    rw [List.cons_append, hstep, hafter, List.map_cons, List.append_assoc, List.singleton_append]

/-- Under `abort` a load ends at the first symbol that cannot be wrapped, and takes back those in
front of it as far as the engine lets it. -/
lemma wrapAll_of_first_refusal (habort : interception.checks = .abort)
    {front back : List ResolvedExport} {symbol : ResolvedExport} {cause : WrapError}
    (hnodup : ((front ++ symbol :: back).map (·.entry)).Nodup)
    (hfront : ∀ other ∈ front, engine.Wrappable run.registrations other.entry)
    (hsymbol : engine.WrapRefusal run.registrations symbol.entry cause) :
    (interception.wrapAll engine m [] (front ++ symbol :: back) run).1 =
        .error (.wrapFailed m.name symbol.name cause) ∧
      ∃ reached : Registrations,
        (∀ other ∈ front, Key.recorder other.entry ∈ reached) ∧
        reached.without (front.map (·.entry)) = run.registrations ∧
        (interception.wrapAll engine m [] (front ++ symbol :: back) run).2.registrations =
          reached.without ((front.map (·.entry)).filter fun pc =>
            engine.refusesUnwrap pc = none) := by
  rw [List.map_append, List.map_cons, List.nodup_append] at hnodup
  obtain ⟨hfrontNodup, -, hdisjoint⟩ := hnodup
  have hnot : symbol.entry ∉ front.map (·.entry) := fun hmem =>
    hdisjoint _ hmem _ List.mem_cons_self rfl
  obtain ⟨reached, hreached, hthere, hwithout⟩ :=
    wrapAll_append interception m [] (symbol :: back) hfrontNodup hfront
  -- The entry is not among those in front, so it is refused as it would have been at once.
  have hrefusal : engine.WrapRefusal reached.registrations symbol.entry cause :=
    hsymbol.of_mem_iff (Registrations.mem_of_without_eq hwithout hnot)
  obtain ⟨after, hafter, htable⟩ :=
    Engine.wrap_of_wrapRefusal hrefusal interception.recorder symbol.name
  rw [hreached]
  simp only [wrapAll, hafter, habort, List.nil_append, true_and]
  refine ⟨reached.registrations, hthere, hwithout, ?_⟩
  rw [rollBack_registrations_eq, htable]

/-- If the engine lets it take back everything, such a load leaves the table that it began with. -/
lemma wrapAll_of_wrapRefusal (habort : interception.checks = .abort)
    (hunwraps : ∀ pc, engine.refusesUnwrap pc = none) {front back : List ResolvedExport}
    {symbol : ResolvedExport} {cause : WrapError}
    (hnodup : ((front ++ symbol :: back).map (·.entry)).Nodup)
    (hfront : ∀ other ∈ front, engine.Wrappable run.registrations other.entry)
    (hsymbol : engine.WrapRefusal run.registrations symbol.entry cause) :
    (interception.wrapAll engine m [] (front ++ symbol :: back) run).1 =
        .error (.wrapFailed m.name symbol.name cause) ∧
      (interception.wrapAll engine m [] (front ++ symbol :: back) run).2.registrations =
        run.registrations := by
  obtain ⟨hanswer, reached, -, hwithout, htable⟩ :=
    wrapAll_of_first_refusal habort hnodup hfront hsymbol
  refine ⟨hanswer, ?_⟩
  rw [htable, List.filter_eq_self.2 fun pc _ => by simpa using hunwraps pc, hwithout]

/-! ## The rows of a load -/

/-- The row that a load adds to a table for a symbol. -/
def row (interception : Interception) (symbol : ResolvedExport) : Key × Registration :=
  (Key.recorder symbol.entry, ⟨.recorder interception.recorder, symbol.name⟩)

lemma offer_eq_some_iff {symbols : List ResolvedExport}
    (hnodup : (symbols.map (·.entry)).Nodup)
    (hwraps : ∀ symbol ∈ symbols, engine.refusesWrap symbol.entry = none) {key : Key}
    {registration : Registration} :
    interception.offer engine symbols key = some registration ↔
      (key, registration) ∈ symbols.map interception.row := by
  induction symbols with
  | nil => simp [offer]
  | cons symbol rest ih =>
    rw [List.map_cons, List.nodup_cons] at hnodup
    rw [List.forall_mem_cons] at hwraps
    rw [List.map_cons, List.mem_cons, ← ih hnodup.2 hwraps.2, row, Prod.mk.injEq]
    by_cases hkey : Key.recorder symbol.entry = key
    · subst hkey
      have hnone : interception.offer engine rest (Key.recorder symbol.entry) = none := by
        have hfind : rest.find? (·.entry = symbol.entry) = none := by
          rw [List.find?_eq_none]
          intro other hother
          have hne : other.entry ≠ symbol.entry := fun heq =>
            hnodup.1 (heq ▸ List.mem_map_of_mem hother)
          simpa using hne
        simp [offer, hfind]
      rw [offer_cons_self rest hwraps.1, hnone]
      simp [eq_comm]
    · rw [offer_cons_of_ne rest hkey]
      simp [Ne.symm hkey]

/-- Where all can be wrapped, a load adds one row for each symbol. -/
lemma wrapAll_toList_perm (interception : Interception) (m : Module)
    {symbols : List ResolvedExport} (hnodup : (symbols.map (·.entry)).Nodup)
    (hall : ∀ symbol ∈ symbols, engine.Wrappable run.registrations symbol.entry) :
    (interception.wrapAll engine m [] symbols run).2.registrations.toList.Perm
      (run.registrations.toList ++ symbols.map interception.row) := by
  have hok : (interception.wrapAll engine m [] symbols run).1 = .ok _ :=
    wrapAll_fst hnodup (.inr hall)
  have hfresh : ∀ added ∈ symbols.map interception.row, run.registrations[added.1]? = none := by
    intro added hadded
    obtain ⟨symbol, hsymbol, rfl⟩ := List.mem_map.1 hadded
    exact (Registrations.not_mem_iff _ _).1 (hall symbol hsymbol).2
  have hrows : (symbols.map interception.row).Nodup := by
    refine List.Nodup.of_map (·.1.pc) ?_
    rwa [List.map_map]
  have hdisjoint : ∀ row ∈ run.registrations.toList, ∀ added ∈ symbols.map interception.row,
      row ≠ added := by
    rintro ⟨key, registration⟩ hrow _ hadded rfl
    rw [Std.ExtTreeMap.mem_toList_iff_getElem?_eq_some, hfresh _ hadded] at hrow
    exact absurd hrow (by simp)
  rw [List.perm_ext_iff_of_nodup (Registrations.nodup_toList _)
    (List.nodup_append.2 ⟨Registrations.nodup_toList _, hrows, hdisjoint⟩)]
  rintro ⟨key, registration⟩
  rw [Std.ExtTreeMap.mem_toList_iff_getElem?_eq_some, wrapAll_getElem?_of_ok hok, List.mem_append,
    Std.ExtTreeMap.mem_toList_iff_getElem?_eq_some, Option.or_eq_some_iff,
    offer_eq_some_iff hnodup fun symbol hsymbol => (hall symbol hsymbol).1]
  exact or_congr_right (and_iff_right_of_imp (hfresh _))

lemma onLoad_of_not_main (hmain : ¬ interception.isMainExecutable m) :
    interception.onLoad engine m run =
      interception.wrapAll engine m [] (engine.enumerate m run).1 (engine.enumerate m run).2 := by
  rw [onLoad, if_neg hmain]

end Interception

/-- **A load is all or nothing.**  Let refusals abort a load, and let the engine take back what it
has granted.  If some entry of a library cannot be wrapped, the load fails with the refusal of the
first one, and the table is what it was.  Otherwise the load answers the number of entries, and the
table has one more row for each of them, under the name that it was listed with. -/
theorem load_all_or_nothing (engine : Engine) (interception : Interception) (m : Module)
    {run after : Run} {symbols : List ResolvedExport} {answer : Except InterceptError Nat}
    (habort : interception.checks = .abort)
    (hunwraps : ∀ pc, engine.refusesUnwrap pc = none)
    (hmain : ¬ interception.isMainExecutable m)
    (hsymbols : (engine.enumerate m run).1 = symbols)
    (hload : interception.onLoad engine m run = (answer, after)) :
    (∀ symbol,
      symbols.find? (fun symbol => ¬ engine.Wrappable run.registrations symbol.entry) =
          some symbol →
        (∃ cause, engine.WrapRefusal run.registrations symbol.entry cause ∧
          answer = .error (.wrapFailed m.name symbol.name cause)) ∧
        after.registrations = run.registrations) ∧
    ((∀ symbol ∈ symbols, engine.Wrappable run.registrations symbol.entry) →
      answer = .ok symbols.length ∧
      after.registrations.toList.Perm
        (run.registrations.toList ++ symbols.map interception.row)) := by
  have hnodup : (symbols.map (·.entry)).Nodup := hsymbols ▸ engine.enumerate_entries_nodup m run
  have htable : (engine.enumerate m run).2.registrations = run.registrations :=
    Engine.enumerate_registrations m run
  rw [Interception.onLoad_of_not_main hmain, hsymbols] at hload
  generalize (engine.enumerate m run).2 = enumerated at hload htable
  obtain rfl := congrArg Prod.fst hload
  obtain rfl := congrArg Prod.snd hload
  rw [← htable]
  constructor
  · intro symbol hfirst
    obtain ⟨hsymbol, front, back, rfl, hfront⟩ := List.find?_eq_some_iff_append.1 hfirst
    obtain ⟨cause, hcause⟩ := Engine.exists_wrapRefusal (by simpa using hsymbol)
    obtain ⟨hanswer, hsame⟩ := Interception.wrapAll_of_wrapRefusal habort hunwraps hnodup
      (by simpa using hfront) hcause
    exact ⟨⟨cause, hcause, hanswer⟩, hsame⟩
  · intro hall
    refine ⟨?_, Interception.wrapAll_toList_perm interception m hnodup hall⟩
    rw [Interception.wrapAll_fst hnodup (.inr hall), List.countP_eq_length.2 (by simpa using hall)]
    simp

/-! ## A load that is given up half-way -/

namespace GivenUp

def liba : Module := ⟨0x2000, 0x3000, some "liba.so", none, 0⟩

/-- A library with a direct and an indirect export that can be wrapped, one that is wrapped already,
and one that the engine rejects. -/
def scenario : Scenario where
  modules := [(liba, [⟨"open", 0x2100, .code⟩, ⟨"memcpy", 0x2400, .indirect⟩,
    ⟨"close", 0x2200, .code⟩, ⟨"brk", 0x2300, .code⟩])]
  main := none
  resolvers := [(0x2400, [.ok 0x2600])]
  wrapRefusals := [(0x2300, "reserved")]
  unwrapRefusals := []
  greeting := []

def session : Interception := ⟨⟨false, none⟩, .abort⟩

/-- A recorder is there from the beginning, and a hook of somebody else. -/
def table : Registrations :=
  let own := (∅ : Registrations).insert (Key.recorder 0x2200)
    ⟨.recorder session.recorder, "old_close"⟩
  own.insert ⟨0x2100, ⟨7⟩⟩ ⟨.foreign ⟨7⟩, "audit"⟩

def initial : Run := { Run.start with registrations := table }

end GivenUp

open GivenUp in
/-- The third of four entries is refused first: the two in front of it are taken back, and the
fourth is not reached. -/
theorem refused_at_close :
    (session.onLoad scenario.engine liba initial).1 =
        .error (.wrapFailed "liba.so" "close" (.alreadyWrapped 0x2200)) ∧
      (session.onLoad scenario.engine liba initial).2.registrations = table := by
  have hfirst : (scenario.engine.enumerate liba initial).1.find?
      (fun symbol => ¬ scenario.engine.Wrappable initial.registrations symbol.entry) =
        some ⟨"close", 0x2200, none⟩ := by decide +kernel
  obtain ⟨⟨cause, hcause, hanswer⟩, hsame⟩ :=
    (load_all_or_nothing scenario.engine session liba rfl (fun _ => rfl) (by decide) rfl rfl).1
      _ hfirst
  refine ⟨?_, hsame⟩
  cases hcause with
  | rejected hrefuses =>
    have hfree : scenario.engine.refusesWrap 0x2200 = none := by decide
    cases hfree.symm.trans hrefuses
  | alreadyWrapped => exact hanswer

end CallTrace
