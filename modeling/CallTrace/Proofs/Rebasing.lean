import CallTrace.Proofs.LaidOutExports
import CallTrace.Proofs.SnapshotPlan

/-!
# Files mapped elsewhere

Which entry points a file offers depends on its contents alone, and where they are depends on the
base at which the file is mapped.  `enumerate_rebased` compares two snapshots that differ in the
base of one module, for any two bases: the enumerations of its exports are the same, except that
each entry is moved by the difference of the bases, in words that wrap.

The reason is that no step of the enumeration looks at what an address is.  A function may come to
stand at the null address and still be enumerated, since only the answers of resolvers are checked
for null; and two names are aliases of one another in both snapshots or in none, since moving is
injective.
-/

namespace CallTrace

/-- An export at an address that is moved. -/
def Export.move (symbol : Export) (distance : Address) : Export :=
  { symbol with addr := symbol.addr + distance }

/-- An entry point that is moved. -/
def ResolvedExport.move (symbol : ResolvedExport) (distance : Address) : ResolvedExport :=
  { symbol with entry := symbol.entry + distance }

namespace Engine

/-- The name under which an entry is listed. -/
def listedName? (symbols : List ResolvedExport) (entry : Address) : Option String :=
  (symbols.find? (·.entry = entry)).map (·.name)

/-- The names in a module's export table, each with the name under which its entry is enumerated.  A
name without an entry comes with none, and two names are aliases if they come with the same. -/
def aliases (engine : Engine) (m : Module) (run : Run) : List (String × Option String) :=
  (engine.tableOf m).map fun symbol => (symbol.name,
    (engine.entryOf? symbol).bind (listedName? (engine.enumerate m run).1))

lemma listedName?_map_move (symbols : List ResolvedExport) (entry distance : Address) :
    listedName? (symbols.map (·.move distance)) (entry + distance) = listedName? symbols entry := by
  have hmoved (symbol : ResolvedExport) :
      (symbol.move distance).entry = entry + distance ↔ symbol.entry = entry :=
    UInt64.add_left_inj distance
  simp only [listedName?, List.find?_map, Function.comp_def, hmoved, Option.map_map]
  rfl

end Engine

namespace Snapshot

variable {snapshot : Snapshot}

/-- A snapshot in which one module has another base. -/
def rebased (snapshot : Snapshot) (handle : Nat) (base : Address) : Snapshot :=
  { snapshot with
    modules := snapshot.modules.modify handle fun mapped => { mapped with base := some base } }

/-! ## Export tables -/

lemma exports_rebased (snapshot : Snapshot) (m : Module) (base : Address) :
    (snapshot.rebased m.handle base).engine.exports m =
      match snapshot.modules[m.handle]? with
      | none => .ok []
      | some mapped => (Elf.Image.ofFile snapshot.files mapped.path).map fun image =>
          image.exports (image.loadBias base) := by
  have hget : (snapshot.rebased m.handle base).modules[m.handle]? =
      snapshot.modules[m.handle]?.map fun mapped => { mapped with base := some base } := by
    simp [rebased]
  change (snapshot.rebased m.handle base).exports m = _
  rw [exports, hget]
  cases snapshot.modules[m.handle]? <;> rfl

lemma exports_move (image : Elf.Image) (bias distance : Address) :
    image.exports (bias + distance) = (image.exports bias).map (·.move distance) := by
  rw [Elf.Image.exports_eq, Elf.Image.exports_eq, List.map_map]
  refine List.map_congr_left fun ⟨name, symbol⟩ _ => ?_
  simp only [Elf.Symbol.exportAs, Export.move, Function.comp_apply, UInt64.add_assoc]

/-- The table of a module that is mapped elsewhere. -/
lemma tableOf_rebased (snapshot : Snapshot) (m : Module) (base base' : Address) :
    (snapshot.rebased m.handle base').engine.tableOf m =
      ((snapshot.rebased m.handle base).engine.tableOf m).map (·.move (base' - base)) := by
  unfold Engine.tableOf
  rw [exports_rebased, exports_rebased]
  cases snapshot.modules[m.handle]? with
  | none => rfl
  | some mapped =>
    cases hopen : Elf.Image.ofFile snapshot.files mapped.path with
    | error cause => simp [hopen, Except.map]
    | ok image =>
      have hbias : image.loadBias base' = image.loadBias base + (base' - base) := by
        unfold Elf.Image.loadBias
        grind
      simp only [hopen, Except.map, hbias, exports_move]

/-! ## Enumeration -/

lemma entryOf?_move (snapshot other : Snapshot) (symbol : Export) (distance : Address) :
    other.engine.entryOf? (symbol.move distance) =
      (snapshot.engine.entryOf? symbol).map (· + distance) := by
  cases hkind : symbol.kind <;>
    simp [Engine.entryOf?, Engine.entryAfter?, Export.move, hkind, engine]

/-- An export that has an entry in a snapshot has no resolver. -/
lemma resolverOf_of_entryOf? {symbol : Export} {entry : Address}
    (h : snapshot.engine.entryOf? symbol = some entry) : Engine.resolverOf symbol = none := by
  cases hkind : symbol.kind <;>
    simp_all [Engine.entryOf?, Engine.entryAfter?, Engine.resolverOf, engine]

lemma enumerateTable_move (snapshot other : Snapshot) (distance : Address) (seen : List Address)
    (table : List Export) (run run' : Run) :
    (other.engine.enumerateTable (seen.map (· + distance)) (table.map (·.move distance)) run').1 =
      (snapshot.engine.enumerateTable seen table run).1.map (·.move distance) := by
  induction table generalizing seen run run' with
  | nil => rfl
  | cons symbol rest ih =>
    have hfst := snapshot.engine_steady.resolveEntry_fst symbol run
    have hfst' := other.engine_steady.resolveEntry_fst (symbol.move distance) run'
    rw [entryOf?_move snapshot, ← hfst] at hfst'
    rcases hentry : snapshot.engine.resolveEntry symbol run with ⟨target?, after⟩
    rcases hentry' : other.engine.resolveEntry (symbol.move distance) run' with ⟨shifted?, after'⟩
    rw [hentry] at hfst
    rw [hentry, hentry'] at hfst'
    obtain rfl : shifted? = target?.map (· + distance) := hfst'
    simp only [List.map_cons, Engine.enumerateTable, hentry, hentry']
    cases target? with
    | none => exact ih _ _ _
    | some entry =>
      have hseen : entry + distance ∈ seen.map (· + distance) ↔ entry ∈ seen :=
        List.mem_map_of_injective fun _ _ => (UInt64.add_left_inj distance).1
      simp only [Option.map_some, hseen]
      split
      · exact ih _ _ _
      · have hnone := resolverOf_of_entryOf? hfst.symm
        have hnone' : Engine.resolverOf (symbol.move distance) = none := by
          have hmoved := entryOf?_move snapshot other symbol distance
          rw [← hfst] at hmoved
          exact resolverOf_of_entryOf? hmoved
        rw [List.map_cons, ← ih (entry :: seen) after after', hnone, hnone']
        rfl

/-- A snapshot enumerates no export with a resolver. -/
lemma resolver_enumerateTable (seen : List Address) (table : List Export) (run : Run) :
    ∀ symbol ∈ (snapshot.engine.enumerateTable seen table run).1, symbol.resolver = none := by
  induction table generalizing seen run with
  | nil => simp [Engine.enumerateTable]
  | cons symbol rest ih =>
    have hfst := snapshot.engine_steady.resolveEntry_fst symbol run
    simp only [Engine.enumerateTable]
    split <;> rename_i heq <;> rw [heq] at hfst
    · exact ih _ _
    · split
      · exact ih _ _
      · exact List.forall_mem_cons.2 ⟨resolverOf_of_entryOf? hfst.symm, ih _ _⟩

/-- **Enumeration does not depend on the base.**  Two snapshots that differ in the base of one
module enumerate the same names in the same order.  No entry comes from a resolver, each is moved by
the difference of the bases, and every name of the table is an alias of the same name. -/
theorem enumerate_rebased (snapshot : Snapshot) (m : Module) (base base' : Address)
    (run run' : Run) :
    let engine := (snapshot.rebased m.handle base).engine
    let engine' := (snapshot.rebased m.handle base').engine
    (engine'.enumerate m run').1 = (engine.enumerate m run).1.map (·.move (base' - base)) ∧
      (∀ symbol ∈ (engine.enumerate m run).1, symbol.resolver = none) ∧
      engine'.aliases m run' = engine.aliases m run := by
  intro engine engine'
  have htable : engine'.tableOf m = (engine.tableOf m).map (·.move (base' - base)) :=
    tableOf_rebased snapshot m base base'
  have hlist : (engine'.enumerate m run').1 =
      (engine.enumerate m run).1.map (·.move (base' - base)) := by
    have hfst : (engine.listExports m run).1 = engine.tableOf m := Engine.listExports_fst m run
    have hfst' : (engine'.listExports m run').1 = engine'.tableOf m :=
      Engine.listExports_fst m run'
    have h := enumerateTable_move (snapshot.rebased m.handle base)
      (snapshot.rebased m.handle base') (base' - base) [] (engine.listExports m run).1
      (engine.listExports m run).2 (engine'.listExports m run').2
    rw [hfst, ← htable, ← hfst', ← hfst] at h
    exact h
  refine ⟨hlist, ?_, ?_⟩
  · exact resolver_enumerateTable _ _ _
  · rw [Engine.aliases, Engine.aliases, htable, hlist, List.map_map]
    refine List.map_congr_left fun symbol _ => ?_
    have hentry : engine'.entryOf? (symbol.move (base' - base)) =
        (engine.entryOf? symbol).map (· + (base' - base)) :=
      entryOf?_move _ _ symbol _
    simp only [Function.comp_apply, hentry, Option.bind_map, Engine.listedName?_map_move]
    rfl

end Snapshot

/-! ## A file at both ends of the address space -/

namespace BothEnds

/-- Two names of one function, and a function two pages further. -/
def symbols : List Elf.DynamicSymbol := [
  ⟨"stat", 1, 2, 1, 0x2040, by decide⟩, ⟨"stat64", 1, 2, 1, 0x2040, by decide⟩,
  ⟨"read", 1, 2, 1, 0x4010, by decide⟩]

/-- A file has these symbols and one loadable segment. -/
def Offers (file : Bytes) : Prop := Elf.LaysOut ⟨.bits64, .little⟩ [0x2000] symbols ∅ file

def libc : Module := ⟨0x1000, 0x4000, some "libc.so", some "/lib/libc.so", 0⟩

/-- A process that has mapped a file. -/
def snapshot (file : Bytes) : Snapshot where
  pid := 1
  files := .ofList [("/lib/libc.so", some file)]
  modules := [⟨"/lib/libc.so", 0x1000, 0x4000, some 0x1000⟩]
  exe := none

/-- What is enumerated if the file is mapped at a base. -/
def listed (file : Bytes) (base : Address) : List ResolvedExport :=
  (((snapshot file).rebased libc.handle base).engine.enumerate libc Run.start).1

variable {file : Bytes}

lemma tableOf_low (h : Offers file) :
    ((snapshot file).rebased libc.handle 0x1000).engine.tableOf libc =
      [⟨"stat", 0x1040, .code⟩, ⟨"stat64", 0x1040, .code⟩, ⟨"read", 0x3010, .code⟩] := by
  have hcontents : (snapshot file).files.contents "/lib/libc.so" = .ok file := rfl
  obtain ⟨image, -, hopen, -, -, hsegments, hexports⟩ := h.exists_image hcontents
  have hbias : image.loadBias 0x1000 = 0x1000 - 0x2000 := by
    rw [Elf.Image.loadBias, Elf.Image.linkBase, hsegments]
    rfl
  have hget : (snapshot file).modules[libc.handle]? =
      some ⟨"/lib/libc.so", 0x1000, 0x4000, some 0x1000⟩ := rfl
  rw [Engine.tableOf, Snapshot.exports_rebased, hget]
  simp only [hopen, Except.map, hbias, hexports]
  rfl

lemma listed_low (h : Offers file) :
    listed file 0x1000 = [⟨"stat", 0x1040, none⟩, ⟨"read", 0x3010, none⟩] := by
  have hlist : (((snapshot file).rebased libc.handle 0x1000).engine.listExports libc Run.start).1 =
      [⟨"stat", 0x1040, .code⟩, ⟨"stat64", 0x1040, .code⟩, ⟨"read", 0x3010, .code⟩] :=
    (Engine.listExports_fst libc Run.start).trans (tableOf_low h)
  simp only [listed, Engine.enumerate, hlist]
  rfl

lemma exists_offers : ∃ file, Offers file :=
  ⟨_, Elf.assemble_laysOut (by decide +kernel) (by decide) (by decide)⟩

end BothEnds

open BothEnds in
/-- Mapped at the last page, the file has one function there and the other one at the beginning of
the address space.  The second name of the first function is left out at either base. -/
theorem exports_at_both_ends :
    ∃ file, Offers file ∧ listed file 0x1000 = [⟨"stat", 0x1040, none⟩, ⟨"read", 0x3010, none⟩] ∧
      listed file 0xfffffffffffff000 =
        [⟨"stat", 0xfffffffffffff040, none⟩, ⟨"read", 0x1010, none⟩] := by
  obtain ⟨file, hfile⟩ := exists_offers
  obtain ⟨hmoved, -, -⟩ := Snapshot.enumerate_rebased (snapshot file) libc 0x1000
    0xfffffffffffff000 Run.start Run.start
  refine ⟨file, hfile, listed_low hfile, hmoved.trans ?_⟩
  exact (congrArg (List.map _) (listed_low hfile)).trans (by decide)

end CallTrace
