import CallTrace.Proofs.Replay
import CallTrace.Proofs.TwinRuns

/-!
# The plan of a snapshot

Attach a session to a snapshot and replay the loads of its modules: what is registered then is the
plan.  A library is a module that does not start where the main module starts, and it offers the
functions that its file exports, at the addresses where the process has them.  A file that cannot be
read offers none, and neither do indirect exports, since a snapshot runs no resolver.

`plan_of_snapshot` says that the plan is exactly what the libraries offer (`Planned`), whatever
files there are and however their addresses overlap, as long as the session had no failure to deal
with; with `ignore` it never has.  A replay of the unloads then brings the table back to nothing.
-/

namespace CallTrace

/-- A table with hooks of one identity lists its rows by ascending addresses. -/
lemma Registrations.pairwise_pc {table : Registrations} {hook : HookId}
    (h : ∀ row ∈ table.toList, row.1.hook = hook) :
    table.toList.Pairwise fun row other => row.1.pc < other.1.pc := by
  refine Std.ExtTreeMap.ordered_keys_toList.imp_of_mem ?_
  intro row other hrow hother hlt
  have hsame : row.1.hook = other.1.hook := (h row hrow).trans (h other hother).symm
  simp only [Key.cmp, compareLex, compareOn, hsame, Std.ReflCmp.compare_self] at hlt
  rw [Ordering.then_eq] at hlt
  exact Std.compare_eq_lt.1 hlt

namespace Snapshot

variable (snapshot : Snapshot)

/-! ## What libraries offer -/

/-- How far a mapped file is moved.  Without a mapping of the file's beginning it is not. -/
def bias (mapped : MappedModule) (image : Elf.Image) : Address := mapped.base.elim 0 image.loadBias

/-- The functions that a mapped file exports. -/
def functionsOf (mapped : MappedModule) : List Export :=
  match Elf.Image.ofFile snapshot.files mapped.path with
  | .ok image => (image.exports (bias mapped image)).filter (·.kind = .code)
  | .error _ => []

/-- The modules that do not start where the main module starts. -/
def libraries : List MappedModule :=
  snapshot.modules.filter fun mapped => snapshot.mainModule.map (·.start) ≠ some mapped.start

/-- The functions of all libraries, in the order of the snapshot. -/
def functions : List Export := snapshot.libraries.flatMap snapshot.functionsOf

/-- Rows that show what the libraries of a snapshot offer. -/
structure Planned (rows : List PlanRow) : Prop where
  /-- The rows are in the order of their addresses, and no address has two of them. -/
  ascending : (rows.map (·.pc)).Pairwise (· < ·)
  /-- An address has a row if the file of a library can be read and exports a function there. -/
  mem_iff : ∀ pc, pc ∈ rows.map (·.pc) ↔
    ∃ mapped ∈ snapshot.libraries, ∃ image,
      Elf.Image.ofFile snapshot.files mapped.path = .ok image ∧
        ∃ symbol ∈ image.exports (bias mapped image), symbol.kind = .code ∧ symbol.addr = pc
  /-- A row shows the recorder, the module that the address belongs to, and the first function
  there. -/
  shows : ∀ row ∈ rows, row.hook = recorderId ∧
    row.module = ((snapshot.lookupModule row.pc).map Module.name).getD "" ∧
    (snapshot.functions.find? (·.addr = row.pc)).map (·.name) = some row.symbol

variable {snapshot}

/-- A function stands at an address if the file of a library can be read and exports it there. -/
lemma exists_mem_functions_iff {pc : Address} :
    (∃ symbol ∈ snapshot.functions, symbol.addr = pc) ↔
      ∃ mapped ∈ snapshot.libraries, ∃ image,
        Elf.Image.ofFile snapshot.files mapped.path = .ok image ∧
          ∃ symbol ∈ image.exports (bias mapped image), symbol.kind = .code ∧ symbol.addr = pc := by
  simp only [functions, List.mem_flatMap]
  constructor
  · rintro ⟨symbol, ⟨mapped, hmapped, hsymbol⟩, haddr⟩
    unfold functionsOf at hsymbol
    split at hsymbol <;> rename_i hfile
    · obtain ⟨hexport, hkind⟩ := List.mem_filter.1 hsymbol
      exact ⟨mapped, hmapped, _, hfile, symbol, hexport, by simpa using hkind, haddr⟩
    · exact absurd hsymbol List.not_mem_nil
  · rintro ⟨mapped, hmapped, image, hfile, symbol, hexport, hkind, haddr⟩
    refine ⟨symbol, ⟨mapped, hmapped, ?_⟩, haddr⟩
    rw [functionsOf, hfile]
    exact List.mem_filter.2 ⟨hexport, by simpa using hkind⟩

/-- No symbol of a file is marked twice. -/
lemma kind_ne_both {image : Elf.Image} {bias : Address} {symbol : Export}
    (h : symbol ∈ image.exports bias) : symbol.kind ≠ .both := by
  obtain ⟨entry, -, hentry⟩ := List.mem_filterMap.1 h
  unfold Elf.Image.export? at hentry
  split at hentry
  · simp at hentry
  · split at hentry
    · simp at hentry
    · simp at hentry
    · obtain rfl := Option.some.inj hentry
      simp only [Elf.Image.kindOf]
      split
      · simp
      · split <;> simp

/-- In a snapshot only code has an entry. -/
lemma entryOf?_eq_some_iff {symbol : Export} (h : symbol.kind ≠ .both) {pc : Address} :
    snapshot.engine.entryOf? symbol = some pc ↔ symbol.kind = .code ∧ symbol.addr = pc := by
  unfold Engine.entryOf? Engine.entryAfter?
  cases hkind : symbol.kind with
  | code => simp
  | both => exact absurd hkind h
  | data => simp
  | indirect => simp [engine]

/-- The engine reads the exports of a module from its file. -/
lemma engine_exports_moduleOf {mapped : MappedModule} {handle : Nat}
    (h : snapshot.modules[handle]? = some mapped) :
    snapshot.engine.exports (moduleOf mapped handle) = snapshot.exportsOf mapped := by
  simp [engine, exports, moduleOf, h]

lemma exportAt?_moduleOf {mapped : MappedModule} {handle : Nat}
    (h : snapshot.modules[handle]? = some mapped) (pc : Address) :
    snapshot.engine.exportAt? (moduleOf mapped handle) pc =
      (snapshot.functionsOf mapped).find? (·.addr = pc) := by
  unfold Engine.exportAt? Engine.tableOf
  rw [engine_exports_moduleOf h, exportsOf, functionsOf]
  cases hfile : Elf.Image.ofFile snapshot.files mapped.path with
  | error cause => rfl
  | ok image =>
    simp only [Except.map]
    rw [← List.head?_filter, ← List.head?_filter, List.filter_filter]
    congr 1
    refine List.filter_congr fun symbol hsymbol => ?_
    rw [Bool.eq_iff_iff, decide_eq_true_iff, entryOf?_eq_some_iff (kind_ne_both hsymbol)]
    simp [and_comm]

/-! ## What a session registers -/

variable {interception : Interception}

lemma registrationFor_moduleOf {mapped : MappedModule} {handle : Nat}
    (hexe : interception.recorder.exeStart = snapshot.mainModule.map (·.start))
    (h : snapshot.modules[handle]? = some mapped) (pc : Address) :
    interception.registrationFor snapshot.engine (moduleOf mapped handle) pc =
      if snapshot.mainModule.map (·.start) = some mapped.start then none
      else ((snapshot.functionsOf mapped).find? (·.addr = pc)).map fun symbol =>
        ⟨.recorder interception.recorder, symbol.name⟩ := by
  have hmain : interception.isMainExecutable (moduleOf mapped handle) ↔
      snapshot.mainModule.map (·.start) = some mapped.start := by
    rw [Interception.isMainExecutable, hexe, decide_eq_true_iff]
    rfl
  unfold Interception.registrationFor
  rw [exportAt?_moduleOf h]
  exact if_congr hmain rfl rfl

/-- The first registration that one of the modules gives to an address is that for the first
function there. -/
lemma findSome?_registrationFor
    (hexe : interception.recorder.exeStart = snapshot.mainModule.map (·.start)) (pc : Address) :
    snapshot.reported.findSome? (interception.registrationFor snapshot.engine · pc) =
      (snapshot.functions.find? (·.addr = pc)).map fun symbol =>
        ⟨.recorder interception.recorder, symbol.name⟩ := by
  rw [reported, List.mapIdx_eq_zipIdx_map, List.findSome?_map, functions, List.find?_flatMap,
    List.map_findSome?, libraries, ← List.head?_filterMap, ← List.head?_filterMap,
    List.filterMap_filter]
  conv_rhs => rw [← List.zipIdx_map_fst 0 snapshot.modules, List.filterMap_map]
  congr 1
  refine List.filterMap_congr fun place hplace => ?_
  obtain ⟨mapped, handle⟩ := place
  have hmapped : snapshot.modules[handle]? = some mapped :=
    List.mem_zipIdx_iff_getElem?.1 hplace
  rw [Function.comp_apply, registrationFor_moduleOf hexe hmapped]
  by_cases hmain : snapshot.mainModule.map (·.start) = some mapped.start
  · rw [if_pos hmain]
    exact (if_neg (by simpa using hmain)).symm
  · rw [if_neg hmain]
    exact (if_pos (by simpa using hmain)).symm

/-! ## Rows -/

section Rows

variable {run : Run} {recorder : Recorder} {symbols : Address → Option String}

/-- The rows of a table that carries a recorder are the addresses that have a symbol. -/
lemma mem_rows_iff (h : Registrations.Carries recorder run.registrations symbols) {row : PlanRow} :
    row ∈ snapshot.rows run ↔ ∃ symbol, symbols row.pc = some symbol ∧
      row = ⟨row.pc, recorderId, ((snapshot.lookupModule row.pc).map Module.name).getD "",
        symbol⟩ := by
  rw [rows, List.mem_map]
  constructor
  · rintro ⟨⟨⟨pc, hook⟩, registration⟩, hlisted, rfl⟩
    obtain ⟨rfl, symbol, hsymbol, rfl⟩ := h.mem_toList_iff.1 hlisted
    exact ⟨symbol, hsymbol, rfl⟩
  · rintro ⟨symbol, hsymbol, hrow⟩
    exact ⟨(Key.recorder row.pc, _), h.mem_toList_iff.2 ⟨rfl, symbol, hsymbol, rfl⟩, hrow.symm⟩

lemma pairwise_pc_rows (h : Registrations.Carries recorder run.registrations symbols) :
    ((snapshot.rows run).map (·.pc)).Pairwise (· < ·) := by
  rw [rows, List.map_map, List.pairwise_map]
  exact Registrations.pairwise_pc fun listed hlisted => (h.mem_toList_iff.1 hlisted).1

/-- The rows of a table that has the first function of each address are a plan. -/
lemma planned_rows (recorder : Recorder)
    (h : ∀ key : Key, run.registrations[key]? = if key.hook = recorderId then
      (snapshot.functions.find? (·.addr = key.pc)).map fun symbol =>
        ⟨.recorder recorder, symbol.name⟩ else none) :
    snapshot.Planned (snapshot.rows run) := by
  have hcarries : Registrations.Carries recorder run.registrations fun pc =>
      (snapshot.functions.find? (·.addr = pc)).map (·.name) := by
    intro key
    rw [h, Option.map_map]
    rfl
  constructor
  case ascending => exact pairwise_pc_rows hcarries
  case mem_iff =>
    intro pc
    rw [← exists_mem_functions_iff, List.mem_map]
    constructor
    · rintro ⟨row, hrow, rfl⟩
      obtain ⟨name, hname, -⟩ := (mem_rows_iff hcarries).1 hrow
      obtain ⟨symbol, hsymbol, -⟩ := Option.map_eq_some_iff.1 hname
      exact ⟨symbol, List.mem_of_find?_eq_some hsymbol, by simpa using List.find?_some hsymbol⟩
    · rintro ⟨symbol, hsymbol, haddr⟩
      have hsome : (snapshot.functions.find? (·.addr = pc)).isSome := by
        rw [List.find?_isSome]
        exact ⟨symbol, hsymbol, by simpa using haddr⟩
      obtain ⟨first, hfirst⟩ := Option.isSome_iff_exists.1 hsome
      let row : PlanRow := ⟨pc, recorderId,
        ((snapshot.lookupModule pc).map Module.name).getD "", first.name⟩
      have hname : (snapshot.functions.find? (·.addr = pc)).map (·.name) = some first.name := by
        rw [hfirst, Option.map_some]
      have hrow : row ∈ snapshot.rows run := (mem_rows_iff hcarries).2 ⟨first.name, hname, rfl⟩
      exact ⟨row, hrow, rfl⟩
  case shows =>
    intro row hrow
    obtain ⟨symbol, hsymbol, hrow⟩ := (mem_rows_iff hcarries).1 hrow
    refine ⟨congrArg PlanRow.hook hrow, congrArg PlanRow.module hrow, ?_⟩
    exact hsymbol.trans (congrArg (some ∘ PlanRow.symbol) hrow.symm)

end Rows

/-! ## Replays -/

section OneSession

variable {policy : FailurePolicy} {id : SubscriptionId} {run : Run}

/-- If one session is all that observes, a replay is what the session makes of it. -/
lemma replayLoads_eq (h : run.observers = [(id, .session interception policy)]) :
    snapshot.replayLoads run =
      interception.follow snapshot.engine policy id (snapshot.reported.map (.load · true)) run := by
  rw [replayLoads, Run.deliver, h, Interception.follow, List.map_map]
  rfl

lemma replayUnloads_eq (h : run.observers = [(id, .session interception policy)]) :
    snapshot.replayUnloads run = interception.follow snapshot.engine policy id
      (snapshot.reported.reverse.map .unload) run := by
  rw [replayUnloads, Run.deliver, h, Interception.follow, List.map_map]
  rfl

end OneSession

/-- **The plan of a snapshot.**  Attach a session to a snapshot in which nothing is registered and
nobody else observes, and replay the loads.  With `ignore` there is no failure to deal with.  If
there was none, the plan is what the libraries offer; the unloads that are replayed then go without
failure too, and nothing is left. -/
theorem plan_of_snapshot (snapshot : Snapshot) (options : Options) (checks : ConsistencyChecks)
    (policy : FailurePolicy) (run : Run) (htable : run.registrations = ∅)
    (hobservers : run.observers = []) :
    let attached := (Session.attach snapshot.engine options checks policy run).2
    let loaded := snapshot.replayLoads attached
    let unloaded := snapshot.replayUnloads loaded
    (checks = .ignore → Run.Quiet attached loaded) ∧
      (Run.Quiet attached loaded →
        snapshot.Planned (snapshot.rows loaded) ∧
          Run.Quiet loaded unloaded ∧ snapshot.rows unloaded = []) := by
  intro attached loaded unloaded
  let interception : Interception :=
    ⟨⟨options.onlyFromApp, snapshot.mainModule.map (·.start)⟩, checks⟩
  have steady := snapshot.engine_steady
  have obliging := snapshot.engine_obliging
  have hattached : attached.registrations = ∅ := htable
  have hone : attached.observers =
      [(run.nextSubscription, .session interception policy)] := by
    change run.observers ++ [(run.nextSubscription, .session interception policy)] = _
    rw [hobservers, List.nil_append]
  have hloaded : loaded = interception.follow snapshot.engine policy run.nextSubscription
      (snapshot.reported.map (.load · true)) attached := replayLoads_eq hone
  have hunloaded : unloaded = interception.follow snapshot.engine policy run.nextSubscription
      (snapshot.reported.reverse.map .unload) loaded := by
    refine replayUnloads_eq ?_
    rw [hloaded, Interception.follow_observers, hone]
  refine ⟨fun hignore => ?_, fun hquiet => ?_⟩
  · rw [hloaded]
    exact Interception.quiet_follow_of_ignore steady hignore _
  · have hnone : ∀ pc, Key.recorder pc ∉ attached.registrations := by
      simp [hattached]
    obtain ⟨hunloads, hrestored⟩ :=
      Interception.unloads_restore steady obliging hloaded hnone hquiet
    rw [← hunloaded] at hunloads hrestored
    rw [hloaded] at hquiet
    refine ⟨planned_rows interception.recorder fun key => ?_, hunloads, ?_⟩
    · rw [hloaded, Interception.follow_loads_getElem? steady obliging hquiet, hattached,
        findSome?_registrationFor rfl, Std.ExtTreeMap.getElem?_empty, Option.none_or]
    · rw [rows, hrestored, hattached]
      rfl

end Snapshot

/-! ## Two libraries with a function at one address -/

namespace Overlapping

/-- An object file that exports one function, on a page of its own. -/
def object (name : String) (page : UInt8) : Bytes :=
  let gap (n : Nat) : List UInt8 := List.replicate n 0
  let symbol : List UInt8 := [1, 0, 0, 0, 0, page] ++ gap 6 ++ [0x12, 0, 1, 0]
  let names := 0 :: name.toUTF8.data.toList ++ [0]
  let header := [0x7f, 0x45, 0x4c, 0x46, 1, 1, 1] ++ gap 25 ++ [52] ++ gap 13 ++ [40, 0, 2, 0, 1, 0]
  let symbolSection := gap 4 ++ [11] ++ gap 11 ++ [132, 0, 0, 0, 32, 0, 0, 0, 1] ++ gap 15
  let nameSection := gap 4 ++ [3] ++ gap 11 ++ [164, 0, 0, 0, UInt8.ofNat names.length] ++ gap 19
  (header ++ symbolSection ++ nameSection ++ gap 16 ++ symbol ++ names).toArray

/-- No file is mapped from its beginning, so all of them stand at the addresses of their files. -/
def snapshot : Snapshot where
  pid := 1
  files := .ofList [("/bin/app", some (object "main" 0x11)),
    ("/lib/liba.so", some (object "open" 0x21)), ("/lib/libb.so", some (object "open64" 0x21))]
  modules := [⟨"/bin/app", 0x1000, 0x2000, none⟩, ⟨"/lib/liba.so", 0x2000, 0x3000, none⟩,
    ⟨"/lib/libb.so", 0x3000, 0x4000, none⟩]
  exe := some "/bin/app"

def attached : Run := (Session.attach snapshot.engine .defaults .ignore .report Run.start).2
def loaded : Run := snapshot.replayLoads attached
def unloaded : Run := snapshot.replayUnloads loaded

lemma functions_snapshot :
    snapshot.functions = [⟨"open", 0x2100, .code⟩, ⟨"open64", 0x2100, .code⟩] := by
  decide +kernel

end Overlapping

open Overlapping in
/-- The plan has one row for the two functions, under the name of the first, and the unload that
finds it gone already is no failure. -/
theorem plan_of_overlapping_libraries :
    (0x2100 ∈ (snapshot.rows loaded).map (·.pc) ∧
      ∀ row ∈ snapshot.rows loaded, row.pc = 0x2100 ∧ row.symbol = "open") ∧
      Run.Quiet loaded unloaded ∧ snapshot.rows unloaded = [] := by
  have hreplay : (_ → Run.Quiet attached loaded) ∧ (Run.Quiet attached loaded →
      snapshot.Planned (snapshot.rows loaded) ∧
        Run.Quiet loaded unloaded ∧ snapshot.rows unloaded = []) :=
    Snapshot.plan_of_snapshot snapshot .defaults .ignore .report Run.start rfl rfl
  obtain ⟨planned, hunloads⟩ := hreplay.2 (hreplay.1 rfl)
  have hmem : ∀ pc, pc ∈ (snapshot.rows loaded).map (·.pc) ↔ pc = 0x2100 := by
    intro pc
    rw [planned.mem_iff, ← Snapshot.exists_mem_functions_iff, functions_snapshot]
    simp [eq_comm]
  refine ⟨⟨(hmem _).2 rfl, fun row hrow => ?_⟩, hunloads⟩
  have hpc : row.pc = 0x2100 := (hmem row.pc).1 (List.mem_map_of_mem hrow)
  have hsymbol := (planned.shows row hrow).2.2
  rw [functions_snapshot, hpc] at hsymbol
  exact ⟨hpc, (Option.some.inj hsymbol).symm⟩

end CallTrace
