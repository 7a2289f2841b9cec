import Mathlib.Data.Finset.Card
import CallTrace.Proofs.Confinement
import CallTrace.Scenario
import CallTrace.Snapshot

/-!
# What enumeration yields

Enumerating the exports of a module calls resolvers and writes notices, and leaves the table of
registrations alone.  It yields what the exports resolve to as one resolver is called after the
other (`mem_map_enumerate`), and whatever the resolvers answer, no entry twice
(`enumerate_entries_nodup`).

The rest is about a *steady* engine, whose resolvers answer alike however often they are called.
There the enumeration depends on the export table only, and it can be said without a pass over the
table what it yields: for an address, the first export that resolves to it, if there is one
(`Steady.find?_enumerate`).  So the yielded entries are the `entries` of the module, and those in
front of an entry can be read off the table as well (`Steady.mem_takeWhile_enumerate`).

A snapshot is steady, since all its resolvers fault; so is a scenario in which no resolver has more
than one answer.
-/

namespace CallTrace

namespace Engine

variable {engine : Engine}

/-! ## Entries by the export table -/

/-- Resolvers answer alike, whatever has been called before. -/
def Steady (engine : Engine) : Prop :=
  ∀ earlier resolver, engine.resolver earlier resolver = engine.resolver [] resolver

/-- The export table of a module; one that cannot be read counts as empty. -/
def tableOf (engine : Engine) (m : Module) : List Export :=
  match engine.exports m with
  | .ok table => table
  | .error _ => []

/-- The address that an export resolves to after some resolver calls.  A resolver that faults or
answers null gives none. -/
def entryAfter? (engine : Engine) (earlier : List Address) (symbol : Export) : Option Address :=
  match symbol.kind with
  | .code | .both => some symbol.addr
  | .data => none
  | .indirect =>
    match engine.resolver earlier symbol.addr with
    | .ok entry => if entry = 0 then none else some entry
    | .error _ => none

/-- The addresses that the exports of a table resolve to, as one resolver is called after the
other. -/
def answers (engine : Engine) (earlier : List Address) : List Export → List Address
  | [] => []
  | symbol :: rest => (engine.entryAfter? earlier symbol).toList ++
      engine.answers ((resolverOf symbol).toList ++ earlier) rest

/-- The address that an export resolves to, going by the first answer of its resolver. -/
def entryOf? (engine : Engine) (symbol : Export) : Option Address := engine.entryAfter? [] symbol

/-- The first export of a module that resolves to an address. -/
def exportAt? (engine : Engine) (m : Module) (entry : Address) : Option Export :=
  (engine.tableOf m).find? (engine.entryOf? · = some entry)

/-- The addresses that the exports of a module resolve to. -/
def entries (engine : Engine) (m : Module) : Finset Address :=
  ((engine.tableOf m).filterMap engine.entryOf?).toFinset

lemma mem_entries {m : Module} {entry : Address} :
    entry ∈ engine.entries m ↔ (engine.exportAt? m entry).isSome := by
  simp [entries, exportAt?, List.find?_isSome]

/-! ## The table of registrations -/

@[simp] lemma resolveEntry_registrations (symbol : Export) (run : Run) :
    (engine.resolveEntry symbol run).2.registrations = run.registrations := by
  cases hkind : symbol.kind with
  | code | both | data => simp only [resolveEntry, hkind]
  | indirect =>
    simp only [resolveEntry, hkind, resolveIndirect, resolve]
    cases engine.resolver run.resolverCalls symbol.addr <;> rfl

@[simp] lemma enumerateTable_registrations (seen : List Address) (table : List Export)
    (run : Run) : (engine.enumerateTable seen table run).2.registrations = run.registrations := by
  induction table generalizing seen run with
  | nil => rfl
  | cons symbol rest ih =>
    have hentry : (engine.resolveEntry symbol run).2.registrations = run.registrations :=
      resolveEntry_registrations symbol run
    simp only [enumerateTable]
    split <;> rename_i heq <;> rw [heq] at hentry
    · exact (ih _ _).trans hentry
    · split
      · exact (ih _ _).trans hentry
      · exact (ih _ _).trans hentry

lemma listExports_fst (m : Module) (run : Run) :
    (engine.listExports m run).1 = engine.tableOf m := by
  unfold listExports tableOf
  split <;> simp_all

lemma listExports_resolverCalls (m : Module) (run : Run) :
    (engine.listExports m run).2.resolverCalls = run.resolverCalls := by
  unfold listExports
  split <;> rfl

@[simp] lemma enumerate_registrations (m : Module) (run : Run) :
    (engine.enumerate m run).2.registrations = run.registrations := by
  have hlist : (engine.listExports m run).2.registrations = run.registrations := by
    unfold listExports
    split <;> rfl
  exact (enumerateTable_registrations _ _ _).trans hlist

/-! ## Whatever resolvers answer -/

lemma resolveEntry_fst (engine : Engine) (symbol : Export) (run : Run) :
    (engine.resolveEntry symbol run).1 = engine.entryAfter? run.resolverCalls symbol := by
  cases hkind : symbol.kind with
  | code | both | data => simp only [resolveEntry, entryAfter?, hkind]
  | indirect =>
    simp only [resolveEntry, entryAfter?, hkind, resolveIndirect, resolve]
    cases engine.resolver run.resolverCalls symbol.addr <;> rfl

lemma resolveEntry_resolverCalls (symbol : Export) (run : Run) :
    (engine.resolveEntry symbol run).2.resolverCalls =
      (resolverOf symbol).toList ++ run.resolverCalls := by
  cases hkind : symbol.kind with
  | code | both | data => simp [resolveEntry, resolverOf, hkind]
  | indirect =>
    simp only [resolveEntry, resolverOf, hkind, resolveIndirect, resolve]
    cases engine.resolver run.resolverCalls symbol.addr <;> rfl

/-- A pass over a table yields the addresses that its exports resolve to, except those met
before. -/
lemma mem_map_enumerateTable (engine : Engine) (seen : List Address) (table : List Export)
    (run : Run) (entry : Address) :
    entry ∈ (engine.enumerateTable seen table run).1.map (·.entry) ↔
      entry ∉ seen ∧ entry ∈ engine.answers run.resolverCalls table := by
  induction table generalizing seen run with
  | nil => simp [enumerateTable, answers]
  | cons symbol rest ih =>
    have hfst := engine.resolveEntry_fst symbol run
    have hcalls : (engine.resolveEntry symbol run).2.resolverCalls =
        (resolverOf symbol).toList ++ run.resolverCalls := resolveEntry_resolverCalls symbol run
    rw [answers, List.mem_append, ← hcalls, ← hfst]
    simp only [enumerateTable]
    split <;> rename_i heq <;> rw [heq]
    · rw [ih]
      simp
    · rename_i found after
      split
      · rename_i hseen
        have hne : entry ∉ seen → entry ≠ found := fun hentry h => hentry (h ▸ hseen)
        rw [ih]
        refine and_congr_right fun hentry => ?_
        simp [hne hentry, Run.note, Run.enter]
      · rename_i hseen
        rw [List.map_cons, List.mem_cons, ih]
        by_cases hne : entry = found
        · subst hne
          simp [hseen]
        · simp [hne]

lemma mem_map_enumerate (engine : Engine) (m : Module) (run : Run) {entry : Address} :
    entry ∈ (engine.enumerate m run).1.map (·.entry) ↔
      entry ∈ engine.answers run.resolverCalls (engine.tableOf m) := by
  have h := engine.mem_map_enumerateTable [] (engine.listExports m run).1
    (engine.listExports m run).2 entry
  rw [and_iff_right List.not_mem_nil, listExports_resolverCalls, listExports_fst] at h
  rw [← h, ← listExports_fst m run]
  rfl

/-- A pass over a table calls the resolver of each indirect export once. -/
lemma enumerateTable_resolverCalls (seen : List Address) (table : List Export) (run : Run) :
    (engine.enumerateTable seen table run).2.resolverCalls =
      (table.filterMap resolverOf).reverse ++ run.resolverCalls := by
  induction table generalizing seen run with
  | nil => rfl
  | cons symbol rest ih =>
    have hcalls : (engine.resolveEntry symbol run).2.resolverCalls =
        (resolverOf symbol).toList ++ run.resolverCalls := resolveEntry_resolverCalls symbol run
    have hrest : (rest.filterMap resolverOf).reverse ++
        (engine.resolveEntry symbol run).2.resolverCalls =
          ((symbol :: rest).filterMap resolverOf).reverse ++ run.resolverCalls := by
      rw [hcalls]
      cases hresolver : resolverOf symbol <;> simp [hresolver]
    rw [← hrest]
    simp only [enumerateTable]
    split <;> rename_i heq <;> rw [heq]
    · exact ih _ _
    · split
      · exact ih _ _
      · exact ih _ _

lemma enumerate_resolverCalls (engine : Engine) (m : Module) (run : Run) :
    (engine.enumerate m run).2.resolverCalls =
      ((engine.tableOf m).filterMap resolverOf).reverse ++ run.resolverCalls := by
  rw [← listExports_fst m run, ← listExports_resolverCalls m run]
  exact enumerateTable_resolverCalls _ _ _

/-! ## Each entry once -/

lemma enumerateTable_entries (seen : List Address) (table : List Export) (run : Run) :
    ((engine.enumerateTable seen table run).1.map (·.entry)).Nodup ∧
      ∀ symbol ∈ (engine.enumerateTable seen table run).1, symbol.entry ∉ seen := by
  induction table generalizing seen run with
  | nil => simp [enumerateTable]
  | cons symbol rest ih =>
    simp only [enumerateTable]
    split
    · exact ih _ _
    · rename_i entry after _
      split
      · exact ih _ _
      · rename_i hfresh
        obtain ⟨hnodup, hseen⟩ := ih (entry :: seen) after
        simp only [List.map_cons, List.nodup_cons, List.mem_map, List.mem_cons]
        refine ⟨⟨?_, hnodup⟩, ?_⟩
        · rintro ⟨other, hother, rfl⟩
          exact hseen other hother List.mem_cons_self
        · rintro other (rfl | hother)
          · exact hfresh
          · exact fun hmem => hseen other hother (List.mem_cons_of_mem _ hmem)

/-- However resolvers answer, no entry is yielded twice. -/
lemma enumerate_entries_nodup (engine : Engine) (m : Module) (run : Run) :
    ((engine.enumerate m run).1.map (·.entry)).Nodup :=
  (enumerateTable_entries [] _ _).1

/-! ## Steady engines -/

lemma Steady.resolveEntry_fst (steady : engine.Steady) (symbol : Export) (run : Run) :
    (engine.resolveEntry symbol run).1 = engine.entryOf? symbol := by
  rw [engine.resolveEntry_fst, entryOf?, entryAfter?, entryAfter?, steady run.resolverCalls]

/-- What a pass over a table yields for an address that it has not met before is the first export
that resolves there. -/
lemma Steady.find?_enumerateTable (steady : engine.Steady) (seen : List Address)
    (table : List Export) (run : Run) (entry : Address) :
    (engine.enumerateTable seen table run).1.find? (·.entry = entry) =
      if entry ∈ seen then none
      else (table.find? (engine.entryOf? · = some entry)).map fun symbol =>
        ⟨symbol.name, entry, resolverOf symbol⟩ := by
  induction table generalizing seen run with
  | nil => simp [enumerateTable]
  | cons symbol rest ih =>
    have hfst := steady.resolveEntry_fst symbol run
    simp only [enumerateTable]
    split <;> rename_i heq <;> rw [heq] at hfst
    · rw [ih, List.find?_cons_of_neg (by simp [← hfst])]
    · rename_i found after
      have hfound : (engine.entryOf? symbol = some entry) ↔ found = entry := by
        rw [← hfst, Option.some.injEq]
      split
      · -- An alias: it was met before, so it is not the first export at an address not met before.
        rename_i hseen
        rw [ih]
        by_cases hentry : entry ∈ seen
        · rw [if_pos hentry, if_pos hentry]
        · have hne : found ≠ entry := fun h => hentry (h ▸ hseen)
          rw [if_neg hentry, if_neg hentry, List.find?_cons_of_neg (by simpa [hfound] using hne)]
      · rename_i hseen
        by_cases hne : found = entry
        · subst hne
          simp [hseen, hfound]
        · rw [List.find?_cons_of_neg (by simpa using hne), ih,
            List.find?_cons_of_neg (by simpa [hfound] using hne)]
          simp [Ne.symm hne]

/-- Enumeration yields for an address the first export of the module that resolves there. -/
lemma Steady.find?_enumerate (steady : engine.Steady) (m : Module) (run : Run)
    (entry : Address) :
    (engine.enumerate m run).1.find? (·.entry = entry) =
      (engine.exportAt? m entry).map fun symbol => ⟨symbol.name, entry, resolverOf symbol⟩ := by
  have h := steady.find?_enumerateTable [] (engine.listExports m run).1
    (engine.listExports m run).2 entry
  rw [if_neg List.not_mem_nil] at h
  rw [exportAt?, ← listExports_fst m run]
  exact h

lemma Steady.mem_map_enumerate (steady : engine.Steady) (m : Module) (run : Run)
    {entry : Address} :
    entry ∈ (engine.enumerate m run).1.map (·.entry) ↔ entry ∈ engine.entries m := by
  have h := congrArg Option.isSome (steady.find?_enumerate m run entry)
  rw [Option.isSome_map, Bool.eq_iff_iff, ← mem_entries, List.find?_isSome] at h
  simpa [List.mem_map] using h

/-- A pass over a table comes to an address that it has not met before after the addresses of the
exports in front of the first that resolves there. -/
lemma Steady.mem_takeWhile_enumerateTable (steady : engine.Steady) (seen : List Address)
    (table : List Export) (run : Run) (entry other : Address) (hentry : entry ∉ seen) :
    other ∈ ((engine.enumerateTable seen table run).1.map (·.entry)).takeWhile (· ≠ entry) ↔
      other ∉ seen ∧ ∃ symbol ∈ table.takeWhile (engine.entryOf? · ≠ some entry),
        engine.entryOf? symbol = some other := by
  induction table generalizing seen run with
  | nil => simp [enumerateTable]
  | cons symbol rest ih =>
    have hfst := steady.resolveEntry_fst symbol run
    simp only [enumerateTable]
    split <;> rename_i heq <;> rw [heq] at hfst
    · rw [ih _ _ hentry, List.takeWhile_cons_of_pos (by simp [← hfst])]
      simp [← hfst]
    · rename_i found after
      split
      · -- An alias is skipped, but the table's prefix goes past it.
        rename_i hseen
        have hne : found ≠ entry := fun h => hentry (h ▸ hseen)
        rw [ih _ _ hentry, List.takeWhile_cons_of_pos (by simpa [← hfst] using hne)]
        refine and_congr_right fun hother => ?_
        have hne' : found ≠ other := fun h => hother (h ▸ hseen)
        simp [← hfst, hne']
      · rename_i hseen
        rw [List.map_cons]
        by_cases hne : found = entry
        · subst hne
          rw [List.takeWhile_cons_of_neg (by simp), List.takeWhile_cons_of_neg (by simp [← hfst])]
          simp
        · have hentry' : entry ∉ found :: seen := by simp [hentry, Ne.symm hne]
          rw [List.takeWhile_cons_of_pos (by simpa using hne),
            List.takeWhile_cons_of_pos (by simpa [← hfst] using hne), List.mem_cons,
            ih _ _ hentry', List.exists_mem_cons_iff, ← hfst, Option.some.injEq]
          by_cases hother : other = found
          · subst hother
            simp [hseen]
          · simp [hother, Ne.symm hother]

/-- Enumeration comes to an entry after those of the exports in front of the first that resolves
there. -/
lemma Steady.mem_takeWhile_enumerate (steady : engine.Steady) (m : Module) (run : Run)
    (entry other : Address) :
    other ∈ ((engine.enumerate m run).1.map (·.entry)).takeWhile (· ≠ entry) ↔
      ∃ symbol ∈ (engine.tableOf m).takeWhile (engine.entryOf? · ≠ some entry),
        engine.entryOf? symbol = some other := by
  have h := steady.mem_takeWhile_enumerateTable [] (engine.listExports m run).1
    (engine.listExports m run).2 entry other List.not_mem_nil
  rw [listExports_fst m run, and_iff_right List.not_mem_nil] at h
  rw [← h, ← listExports_fst m run]
  rfl

end Engine

/-! ## Engines that are steady -/

/-- A snapshot runs no resolver, so none of them changes its answer. -/
lemma Snapshot.engine_steady (snapshot : Snapshot) : snapshot.engine.Steady := fun _ _ => rfl

/-- A scenario is steady if no resolver in it has more than one answer. -/
lemma Scenario.engine_steady {scenario : Scenario}
    (h : ∀ resolver ∈ scenario.resolvers, resolver.2.length ≤ 1) : scenario.engine.Steady := by
  intro earlier pc
  simp only [engine, resolver]
  cases hfind : scenario.resolvers.find? (·.1 = pc) with
  | none => simp
  | some found =>
    obtain ⟨_, answers⟩ := found
    match answers, h _ (List.mem_of_find?_eq_some hfind) with
    | [], _ => simp
    | [answer], _ => cases List.count pc earlier <;> simp

end CallTrace
