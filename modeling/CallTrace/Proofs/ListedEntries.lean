import Mathlib.Data.List.Forall2
import Mathlib.Data.List.ReduceOption
import Mathlib.Data.List.Sort
import CallTrace.Proofs.Enumeration

/-!
# What an enumeration lists

An enumeration goes through an export table once, resolving, calling and dropping aliases as it
goes.  This file says what it lists without going through anything.  The export at each place of the
table resolves to an entry, or to none, by the answer that its resolver gives after the calls for
the exports in front of it (`Engine.entryAt?`), so resolvers may change their minds as they like.
`Engine.Lists` then states which list comes out: every entry of the table, each once, in the order
of the first exports that resolve there, each under the name of that export and with its resolver.

These rules leave no choice (`Engine.Lists.unique`), since the places of the first exports are
determined by the table and stand in ascending order.  `enumerate_eq_iff_lists` therefore states an
equivalence, and besides it which requests an enumeration makes: one call for each indirect export,
aliases included, in the order of the table.
-/

namespace CallTrace

/-- What stands in one of two lists that are related member by member has a partner in the other. -/
lemma exists_partner_of_mem {α β : Type} {related : α → β → Prop} {left : List α} {right : List β}
    (h : List.Forall₂ related left right) {a : α} (ha : a ∈ left) : ∃ b ∈ right, related a b := by
  induction h with
  | nil => simp at ha
  | cons hhead _ ih =>
    rcases List.mem_cons.1 ha with rfl | ha
    · exact ⟨_, List.mem_cons_self, hhead⟩
    · obtain ⟨b, hb, hrelated⟩ := ih ha
      exact ⟨b, List.mem_cons_of_mem _ hb, hrelated⟩

namespace Engine

/-! ## The export at a place -/

/-- The resolvers called before the export at a place of a table has its turn, the latest first. -/
def callsBefore (calls : List Address) (table : List Export) (place : Nat) : List Address :=
  (((table.take place).filter (·.kind = .indirect)).map (·.addr)).reverse ++ calls

/-- The address that the export at a place of a table resolves to. -/
def entryAt? (engine : Engine) (calls : List Address) (table : List Export) (place : Nat) :
    Option Address :=
  table[place]?.bind (engine.entryAfter? (callsBefore calls table place))

/-- The call of a resolver that an export takes, if it is indirect. -/
def consultation? (engine : Engine) (calls : List Address) (symbol : Export) : Option Request :=
  if symbol.kind = .indirect then
    some (.resolve symbol.addr (engine.resolver calls symbol.addr))
  else none

/-- The calls of resolvers that a table takes, one export after the other. -/
def consultations (engine : Engine) (calls : List Address) (table : List Export) : List Request :=
  (table.mapIdx fun place symbol =>
    engine.consultation? (callsBefore calls table place) symbol).reduceOption

/-- What is listed stands for the export at a place of a table: it has the export's name, entry and
resolver, and no export in front of it resolves to the entry. -/
structure StandsFor (engine : Engine) (calls : List Address) (table : List Export)
    (listed : ResolvedExport) (place : Nat) : Prop where
  entry : engine.entryAt? calls table place = some listed.entry
  first : ∀ earlier < place, engine.entryAt? calls table earlier ≠ some listed.entry
  named : ∃ symbol, table[place]? = some symbol ∧ listed.name = symbol.name ∧
    listed.resolver = if symbol.kind = .indirect then some symbol.addr else none

/-- A list of what a table has to enter: each entry once, none left out, in the order of the exports
that come first at them. -/
structure Lists (engine : Engine) (calls : List Address) (table : List Export)
    (listed : List ResolvedExport) : Prop where
  distinct : (listed.map (·.entry)).Nodup
  complete : ∀ place entry, engine.entryAt? calls table place = some entry →
    entry ∈ listed.map (·.entry)
  ordered : ∃ places : List Nat, places.Pairwise (· < ·) ∧
    List.Forall₂ (engine.StandsFor calls table) listed places

variable {engine : Engine} {calls : List Address} {table : List Export} {symbol : Export}

/-! ## One export in front of a table -/

lemma resolverOf_eq (symbol : Export) :
    resolverOf symbol = if symbol.kind = .indirect then some symbol.addr else none := by
  unfold resolverOf
  cases symbol.kind <;> rfl

@[simp] lemma callsBefore_zero (calls : List Address) (table : List Export) :
    callsBefore calls table 0 = calls := rfl

@[simp] lemma callsBefore_succ (calls : List Address) (symbol : Export) (rest : List Export)
    (place : Nat) :
    callsBefore calls (symbol :: rest) (place + 1) =
      callsBefore ((resolverOf symbol).toList ++ calls) rest place := by
  rw [callsBefore, callsBefore, List.take_succ_cons, resolverOf_eq]
  by_cases hkind : symbol.kind = .indirect <;> simp [hkind]

@[simp] lemma entryAt?_zero (calls : List Address) (symbol : Export) (rest : List Export) :
    engine.entryAt? calls (symbol :: rest) 0 = engine.entryAfter? calls symbol := rfl

@[simp] lemma entryAt?_succ (calls : List Address) (symbol : Export) (rest : List Export)
    (place : Nat) :
    engine.entryAt? calls (symbol :: rest) (place + 1) =
      engine.entryAt? ((resolverOf symbol).toList ++ calls) rest place := by
  rw [entryAt?, entryAt?, callsBefore_succ, List.getElem?_cons_succ]

lemma consultations_cons (calls : List Address) (symbol : Export) (rest : List Export) :
    engine.consultations calls (symbol :: rest) =
      (engine.consultation? calls symbol).toList ++
        engine.consultations ((resolverOf symbol).toList ++ calls) rest := by
  simp only [consultations, List.mapIdx_cons, callsBefore_zero, callsBefore_succ]
  cases engine.consultation? calls symbol <;> simp

lemma mem_answers_iff {entry : Address} :
    entry ∈ engine.answers calls table ↔
      ∃ place, engine.entryAt? calls table place = some entry := by
  induction table generalizing calls with
  | nil => simp [answers, entryAt?]
  | cons symbol rest ih =>
    rw [answers, List.mem_append, Option.mem_toList, ih]
    constructor
    · rintro (hfirst | ⟨place, hplace⟩)
      · exact ⟨0, hfirst⟩
      · exact ⟨place + 1, by rw [entryAt?_succ, hplace]⟩
    · rintro ⟨_ | place, hplace⟩
      · exact .inl hplace
      · exact .inr ⟨place, by rw [← entryAt?_succ, hplace]⟩

lemma StandsFor.cons {rest : List Export} {listed : ResolvedExport} {place : Nat}
    (h : engine.StandsFor ((resolverOf symbol).toList ++ calls) rest listed place)
    (hfirst : engine.entryAfter? calls symbol ≠ some listed.entry) :
    engine.StandsFor calls (symbol :: rest) listed (place + 1) := by
  constructor
  · rw [entryAt?_succ, h.entry]
  · rintro (_ | earlier) hearlier
    · exact hfirst
    · rw [entryAt?_succ]
      exact h.first earlier (Nat.lt_of_succ_lt_succ hearlier)
  · rw [List.getElem?_cons_succ]
    exact h.named

/-! ## The pass over a table -/

/-- What a pass over a table lists stands for exports in ascending places, at entries that the pass
has not met before. -/
lemma enumerateTable_standsFor (engine : Engine) (seen : List Address) (table : List Export)
    (run : Run) :
    ∃ places : List Nat, places.Pairwise (· < ·) ∧
      List.Forall₂ (fun listed place => listed.entry ∉ seen ∧
          engine.StandsFor run.resolverCalls table listed place)
        (engine.enumerateTable seen table run).1 places := by
  induction table generalizing seen run with
  | nil => exact ⟨[], .nil, .nil⟩
  | cons symbol rest ih =>
    have hfst := engine.resolveEntry_fst symbol run
    have hcalls : (engine.resolveEntry symbol run).2.resolverCalls =
        (resolverOf symbol).toList ++ run.resolverCalls := resolveEntry_resolverCalls symbol run
    -- The places of the rest are one further back in the whole table.
    have hascending {places : List Nat} (h : places.Pairwise (· < ·)) :
        (places.map (· + 1)).Pairwise (· < ·) :=
      List.pairwise_map.2 (h.imp fun hlt => Nat.succ_lt_succ hlt)
    simp only [enumerateTable]
    split <;> rename_i heq <;> rw [heq] at hfst hcalls
    · obtain ⟨places, hplaces, hstands⟩ := ih seen _
      refine ⟨places.map (· + 1), hascending hplaces, List.forall₂_map_right_iff.2 ?_⟩
      refine hstands.imp fun listed place h => ⟨h.1, (hcalls ▸ h.2).cons ?_⟩
      rw [← hfst]
      exact (Option.some_ne_none _).symm
    · rename_i found after
      split
      · rename_i hseen
        obtain ⟨places, hplaces, hstands⟩ := ih seen (after.note (.aliased symbol.name found))
        refine ⟨places.map (· + 1), hascending hplaces, List.forall₂_map_right_iff.2 ?_⟩
        refine hstands.imp fun listed place h => ⟨h.1, (hcalls ▸ h.2).cons ?_⟩
        rw [← hfst]
        exact fun hsame => h.1 (Option.some.inj hsame ▸ hseen)
      · rename_i hfresh
        obtain ⟨places, hplaces, hstands⟩ := ih (found :: seen) after
        refine ⟨0 :: places.map (· + 1), List.pairwise_cons.2 ⟨?_, hascending hplaces⟩,
          .cons ⟨hfresh, hfst.symm, ?_, symbol, rfl, rfl, resolverOf_eq symbol⟩
            (List.forall₂_map_right_iff.2 ?_)⟩
        · simp
        · intro earlier hearlier
          exact absurd hearlier (Nat.not_lt_zero earlier)
        · refine hstands.imp fun listed place h => ?_
          obtain ⟨hne, hnot⟩ := not_or.1 (mt List.mem_cons.2 h.1)
          refine ⟨hnot, (hcalls ▸ h.2).cons ?_⟩
          rw [← hfst]
          exact fun hsame => hne (Option.some.inj hsame).symm

lemma lists_enumerate (engine : Engine) (m : Module) (run : Run) :
    engine.Lists run.resolverCalls (engine.tableOf m) (engine.enumerate m run).1 := by
  constructor
  · exact engine.enumerate_entries_nodup m run
  · intro place entry hentry
    exact (engine.mem_map_enumerate m run).2 (mem_answers_iff.2 ⟨place, hentry⟩)
  · obtain ⟨places, hplaces, hstands⟩ := engine.enumerateTable_standsFor []
      (engine.listExports m run).1 (engine.listExports m run).2
    rw [listExports_resolverCalls] at hstands
    refine ⟨places, hplaces, ?_⟩
    rw [← listExports_fst m run]
    exact hstands.imp fun _ _ h => h.2

/-! ## No choice is left -/

lemma StandsFor.unique {listed listed' : ResolvedExport} {place : Nat}
    (h : engine.StandsFor calls table listed place)
    (h' : engine.StandsFor calls table listed' place) : listed = listed' := by
  obtain ⟨symbol, hsymbol, hname, hresolver⟩ := h.named
  obtain ⟨symbol', hsymbol', hname', hresolver'⟩ := h'.named
  obtain rfl := Option.some.inj (hsymbol.symm.trans hsymbol')
  have hentry : listed.entry = listed'.entry := Option.some.inj (h.entry.symm.trans h'.entry)
  cases listed
  cases listed'
  simp_all

/-- An entry belongs to one place only, that of the first export there. -/
lemma StandsFor.place_unique {listed listed' : ResolvedExport} {place place' : Nat}
    (h : engine.StandsFor calls table listed place)
    (h' : engine.StandsFor calls table listed' place') (hentry : listed.entry = listed'.entry) :
    place = place' := by
  apply Nat.le_antisymm
  · by_contra hlt
    exact h.first place' (Nat.lt_of_not_le hlt) (hentry ▸ h'.entry)
  · by_contra hlt
    exact h'.first place (Nat.lt_of_not_le hlt) (hentry ▸ h.entry)

namespace Lists

variable {listed listed' : List ResolvedExport}

/-- The places that a list stands for are those of the first exports. -/
lemma mem_places_iff (h : engine.Lists calls table listed) {places : List Nat}
    (hstands : List.Forall₂ (engine.StandsFor calls table) listed places) {place : Nat} :
    place ∈ places ↔ ∃ first, engine.StandsFor calls table first place := by
  constructor
  · intro hplace
    obtain ⟨first, -, hfirst⟩ := exists_partner_of_mem hstands.flip hplace
    exact ⟨first, hfirst⟩
  · rintro ⟨first, hfirst⟩
    obtain ⟨other, hother, hentry⟩ := List.mem_map.1 (h.complete place first.entry hfirst.entry)
    obtain ⟨place', hplace', hstandsFor⟩ := exists_partner_of_mem hstands hother
    rwa [hfirst.place_unique hstandsFor hentry.symm]

/-- Two lists of one table are the same. -/
lemma unique (h : engine.Lists calls table listed) (h' : engine.Lists calls table listed') :
    listed = listed' := by
  obtain ⟨places, hplaces, hstands⟩ := h.ordered
  obtain ⟨places', hplaces', hstands'⟩ := h'.ordered
  obtain rfl : places = places' := hplaces.eq_of_mem_iff hplaces' fun place => by
    rw [h.mem_places_iff hstands, h'.mem_places_iff hstands']
  exact List.left_unique_forall₂' (fun _ _ _ hfirst hsecond => hfirst.unique hsecond)
    hstands hstands'

/-- A list depends on the entries at the places only. -/
lemma of_entryAt?_eq {calls' : List Address} (h : engine.Lists calls table listed)
    (hentry : engine.entryAt? calls table = engine.entryAt? calls' table) :
    engine.Lists calls' table listed := by
  obtain ⟨places, hplaces, hstands⟩ := h.ordered
  refine ⟨h.distinct, hentry ▸ h.complete, places, hplaces, ?_⟩
  exact hstands.imp fun _ _ hfor => ⟨hentry ▸ hfor.entry, hentry ▸ hfor.first, hfor.named⟩

end Lists

lemma Steady.entryAt?_eq (steady : engine.Steady) (calls calls' : List Address)
    (table : List Export) : engine.entryAt? calls table = engine.entryAt? calls' table := by
  funext place
  refine Option.bind_congr fun symbol _ => ?_
  rw [entryAfter?, entryAfter?, steady (callsBefore calls table place),
    steady (callsBefore calls' table place)]

/-- As long as resolvers answer alike, a module is enumerated alike. -/
lemma Steady.enumerate_fst_eq (steady : engine.Steady) (m : Module) (run run' : Run) :
    (engine.enumerate m run).1 = (engine.enumerate m run').1 :=
  ((engine.lists_enumerate m run).of_entryAt?_eq (steady.entryAt?_eq _ _ _)).unique
    (engine.lists_enumerate m run')

/-! ## Requests -/

lemma requests_note (run : Run) (notice : Notice) :
    (run.note notice).journal.requests = run.journal.requests := by
  simp [Run.note, Run.enter, Journal.requests]

lemma requests_resolve (engine : Engine) (resolver : Address) (run : Run) :
    (engine.resolve resolver run).2.journal.requests =
      run.journal.requests ++ [.resolve resolver (engine.resolver run.resolverCalls resolver)] := by
  simp [resolve, Run.enter, Journal.requests]

lemma requests_resolveEntry (engine : Engine) (symbol : Export) (run : Run) :
    (engine.resolveEntry symbol run).2.journal.requests =
      run.journal.requests ++ (engine.consultation? run.resolverCalls symbol).toList := by
  cases hkind : symbol.kind with
  | code | both | data => simp [resolveEntry, consultation?, hkind]
  | indirect =>
    have hcall := engine.requests_resolve symbol.addr run
    simp only [resolveEntry, consultation?, hkind, resolveIndirect, if_true, Option.toList_some]
    split <;> rename_i heq <;> rw [heq] at hcall
    · rw [requests_note, hcall]
    · rw [requests_note, requests_note, hcall]

/-- A pass over a table makes the calls that its exports take, and no other request. -/
lemma requests_enumerateTable (seen : List Address) (table : List Export) (run : Run) :
    (engine.enumerateTable seen table run).2.journal.requests =
      run.journal.requests ++ engine.consultations run.resolverCalls table := by
  induction table generalizing seen run with
  | nil => simp [enumerateTable, consultations]
  | cons symbol rest ih =>
    have hcalls : (engine.resolveEntry symbol run).2.resolverCalls =
        (resolverOf symbol).toList ++ run.resolverCalls := resolveEntry_resolverCalls symbol run
    have hrequests := engine.requests_resolveEntry symbol run
    rw [consultations_cons, ← List.append_assoc, ← hrequests, ← hcalls]
    simp only [enumerateTable]
    split <;> rename_i heq <;> rw [heq]
    · exact ih _ _
    · split
      · rw [ih, requests_note]
        rfl
      · exact ih _ _

lemma requests_listExports (engine : Engine) (m : Module) (run : Run) :
    (engine.listExports m run).2.journal.requests = run.journal.requests := by
  unfold listExports
  split
  · rfl
  · exact requests_note run _

end Engine

/-- **What an enumeration lists.**  Whatever resolvers answer from call to call, enumerating the
exports of a module yields the one list of what its table has to enter.  The requests on the way are
one call for each indirect export of the table, in order. -/
theorem enumerate_eq_iff_lists (engine : Engine) (m : Module) (run : Run)
    (listed : List ResolvedExport) :
    ((engine.enumerate m run).1 = listed ↔
      engine.Lists run.resolverCalls (engine.tableOf m) listed) ∧
    (engine.enumerate m run).2.journal.requests =
      run.journal.requests ++ engine.consultations run.resolverCalls (engine.tableOf m) := by
  constructor
  · constructor
    · rintro rfl
      exact engine.lists_enumerate m run
    · exact (engine.lists_enumerate m run).unique
  · rw [← engine.requests_listExports m run, ← engine.listExports_resolverCalls m run,
      ← engine.listExports_fst m run]
    exact engine.requests_enumerateTable [] _ _

namespace SharedResolver

def libc : Module := ⟨0x2000, 0x3000, some "libc.so", none, 0⟩

/-- Two exports have one resolver, which answers another address at its second call; that address
has a third export. -/
def scenario : Scenario where
  modules := [(libc, [⟨"memcpy", 0x2400, .indirect⟩, ⟨"memmove", 0x2400, .indirect⟩,
    ⟨"bcopy", 0x2700, .code⟩])]
  main := none
  resolvers := [(0x2400, [.ok 0x2600, .ok 0x2700])]
  wrapRefusals := []
  unwrapRefusals := []
  greeting := []

example : (scenario.engine.enumerate libc Run.start).1 =
    [⟨"memcpy", 0x2600, some 0x2400⟩, ⟨"memmove", 0x2700, some 0x2400⟩] := by
  decide

end SharedResolver

end CallTrace
