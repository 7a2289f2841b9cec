import Mathlib.Data.List.Pairwise
import CallTrace.Proofs.Grouping
import CallTrace.Snapshot

/-!
# Which file an address is attributed to

A snapshot looks an address up among modules, and a module reaches from the lowest to the highest
mapping of its file.  Where the mappings of two files interleave, their modules overlap, and the
look-up finds the one whose file appears first.  So an address inside a mapping may be attributed to
another file, although no two mappings overlap.

The kernel lists mappings in ascending order, without empty or overlapping ones
(`Mapping.Orderly`).  `attributed_iff` says for such texts exactly when an address is attributed to
the file that is mapped there: unless that file is shadowed, by one that has a mapping below all of
its mappings and another one above the address.  It also says what follows for calls that return to
the address: they count as calls of the application if the look-up finds the main executable,
whichever file is mapped there.
-/

namespace CallTrace

/-! ## Mappings in order -/

/-- In a list without repetitions what comes first there has come first before. -/
lemma exists_append_of_eraseDups {paths front back : List String} {path other : String}
    (h : paths.eraseDups = front ++ path :: back) (hother : other ∈ back) :
    ∃ before after, paths = before ++ path :: after ∧ other ∉ before := by
  induction paths using List.reverseRecOn generalizing back with
  | nil => simp at h
  | append_singleton paths last ih =>
    rw [MappedModule.eraseDups_concat] at h
    split at h
    · obtain ⟨before, after, hpaths, hnot⟩ := ih h hother
      exact ⟨before, after ++ [last], by simp [hpaths], hnot⟩
    · rename_i hlast
      obtain ⟨back, final, rfl⟩ := (List.eq_nil_or_concat' back).resolve_left
        (List.ne_nil_of_mem hother)
      rw [← List.cons_append, ← List.append_assoc] at h
      obtain ⟨hfront, hfinal⟩ := List.append_inj' h rfl
      obtain rfl : last = final := by simpa using hfinal
      rcases List.mem_append.1 hother with hother | hother
      · obtain ⟨before, after, hpaths, hnot⟩ := ih hfront hother
        exact ⟨before, after ++ [last], by simp [hpaths], hnot⟩
      · -- The last path is new, so it does not stand in front of any other.
        obtain rfl : other = last := by simpa using hother
        have hmem : path ∈ paths := by
          rw [← List.mem_eraseDups, hfront]
          simp
        obtain ⟨before, after, hpaths⟩ := List.append_of_mem hmem
        refine ⟨before, after ++ [other], by simp [hpaths], fun hbefore => hlast ?_⟩
        rw [hpaths]
        exact List.mem_append_left _ hbefore

namespace Mapping

/-- An address lies in a mapping. -/
def Holds (mapping : Mapping) (pc : Address) : Prop := mapping.start ≤ pc ∧ pc < mapping.stop

/-- No mapping is empty, they ascend, and no two of them overlap. -/
structure Orderly (mappings : List Mapping) : Prop where
  nonempty : ∀ mapping ∈ mappings, mapping.start < mapping.stop
  ascending : mappings.Pairwise fun lower upper => lower.stop ≤ upper.start

/-- A file is shadowed up to an address: another file has a mapping below all of its mappings and
one above the address. -/
def Shadowed (mappings : List Mapping) (path : String) (pc : Address) : Prop :=
  ∃ lower ∈ mappings, ∃ upper ∈ mappings, lower.path = upper.path ∧ lower.path ≠ path ∧
    (∀ own ∈ mappings, own.path = path → lower.stop ≤ own.start) ∧ pc < upper.start

instance (mapping : Mapping) (pc : Address) : Decidable (mapping.Holds pc) :=
  inferInstanceAs (Decidable (_ ∧ _))

instance (mappings : List Mapping) (path : String) (pc : Address) :
    Decidable (Shadowed mappings path pc) :=
  inferInstanceAs (Decidable (∃ lower ∈ mappings, ∃ upper ∈ mappings, _ ∧ _))

variable {mappings : List Mapping} {modules : List MappedModule}

lemma Orderly.apart (h : Orderly mappings) {mapping other : Mapping} (hmapping : mapping ∈ mappings)
    (hother : other ∈ mappings) (hne : mapping ≠ other) :
    mapping.stop ≤ other.start ∨ other.stop ≤ mapping.start := by
  have hsymmetric : Std.Symm fun mapping other : Mapping =>
      mapping.stop ≤ other.start ∨ other.stop ≤ mapping.start := ⟨fun _ _ hor => hor.symm⟩
  have hpairwise : mappings.Pairwise fun mapping other : Mapping =>
      mapping.stop ≤ other.start ∨ other.stop ≤ mapping.start := h.ascending.imp fun hle => .inl hle
  exact hpairwise.forall hmapping hother hne

/-- Of two files the one whose module comes first has a mapping below all mappings of the other. -/
lemma Orderly.exists_below (h : Orderly mappings)
    (hgrouped : MappedModule.GroupedFrom mappings modules) {front back : List String}
    {path other : String} (hpaths : modules.map (·.path) = front ++ path :: back)
    (hother : other ∈ back) :
    ∃ lower ∈ mappings, lower.path = path ∧
      ∀ own ∈ mappings, own.path = other → lower.stop ≤ own.start := by
  have hne : path ≠ other := by
    have hnodup := hgrouped.nodup
    rw [hpaths, List.nodup_append, List.nodup_cons] at hnodup
    rintro rfl
    exact hnodup.2.1.1 hother
  obtain ⟨before, after, hcut, hnot⟩ :=
    exists_append_of_eraseDups (hgrouped.paths.symm.trans hpaths) hother
  obtain ⟨below, above, rfl, rfl, habove⟩ := List.map_eq_append_iff.1 hcut
  obtain ⟨lower, above, rfl, rfl, rfl⟩ := List.map_eq_cons_iff.1 habove
  refine ⟨lower, by simp, rfl, fun own hown hpath => ?_⟩
  have hascending := (List.pairwise_cons.1 (List.pairwise_append.1 h.ascending).2.1).1
  rcases List.mem_append.1 hown with hown | hown
  · exact absurd (hpath ▸ List.mem_map_of_mem hown) hnot
  · rcases List.mem_cons.1 hown with rfl | hown
    · exact absurd hpath hne
    · exact hascending own hown

end Mapping

/-! ## Modules of a snapshot -/

lemma Module.contains_iff {m : Module} {pc : Address} :
    m.contains pc ↔ m.start ≤ pc ∧ pc < m.stop := by
  rw [Module.contains, Bool.and_eq_true, decide_eq_true_iff, decide_eq_true_iff]

namespace Snapshot

open Mapping

variable {snapshot : Snapshot} {mappings : List Mapping} {pc : Address}

lemma exists_of_mem_reported {m : Module} (h : m ∈ snapshot.reported) :
    ∃ mapped ∈ snapshot.modules, ∃ handle, m = moduleOf mapped handle := by
  obtain ⟨handle, hhandle, rfl⟩ := List.mem_mapIdx.1 h
  exact ⟨_, List.getElem_mem hhandle, handle, rfl⟩

lemma map_path_reported (snapshot : Snapshot) :
    snapshot.reported.map (·.path) = snapshot.modules.map fun mapped => some mapped.path := by
  refine List.ext_getElem (by simp [reported]) fun i hi hi' => ?_
  simp [reported, moduleOf]

/-- A module contains an address between two mappings of its file. -/
lemma contains_of_bounds (hgrouped : MappedModule.GroupedFrom mappings snapshot.modules)
    {m : Module} (hm : m ∈ snapshot.reported) {lower upper : Mapping} (hlower : lower ∈ mappings)
    (hupper : upper ∈ mappings) (hlowerPath : m.path = some lower.path)
    (hupperPath : m.path = some upper.path) (hlow : lower.start ≤ pc) (hhigh : pc < upper.stop) :
    m.contains pc := by
  obtain ⟨mapped, hmapped, handle, rfl⟩ := exists_of_mem_reported hm
  have hspans := hgrouped.spans mapped hmapped
  have hstart : mapped.start ≤ lower.start :=
    hspans.start.2 ⟨lower, hlower, (Option.some.inj hlowerPath).symm, rfl⟩
  have hstop : upper.stop ≤ mapped.stop :=
    hspans.stop.2 ⟨upper, hupper, (Option.some.inj hupperPath).symm, rfl⟩
  exact Module.contains_iff.2 ⟨UInt64.le_trans hstart hlow, UInt64.lt_of_lt_of_le hhigh hstop⟩

/-- A module that contains an address has a mapping that ends above it. -/
lemma exists_above_of_contains (hgrouped : MappedModule.GroupedFrom mappings snapshot.modules)
    {m : Module} (hm : m ∈ snapshot.reported) (hpc : m.contains pc) :
    ∃ upper ∈ mappings, m.path = some upper.path ∧ pc < upper.stop := by
  obtain ⟨mapped, hmapped, handle, rfl⟩ := exists_of_mem_reported hm
  obtain ⟨upper, hupper, hpath, hstop⟩ := (hgrouped.spans mapped hmapped).stop.1
  exact ⟨upper, hupper, congrArg some hpath.symm, hstop ▸ (Module.contains_iff.1 hpc).2⟩

/-- Every mapped file has a module. -/
lemma exists_module_of_mem (hgrouped : MappedModule.GroupedFrom mappings snapshot.modules)
    {mapping : Mapping} (hmapping : mapping ∈ mappings) :
    ∃ m ∈ snapshot.reported, m.path = some mapping.path := by
  have hpath : some mapping.path ∈ snapshot.reported.map (·.path) := by
    obtain ⟨mapped, hmapped, heq⟩ :=
      List.mem_map.1 (hgrouped.mem_paths.2 ⟨mapping, hmapping, rfl⟩)
    rw [map_path_reported, ← heq]
    exact List.mem_map_of_mem hmapped
  obtain ⟨m, hm, heq⟩ := List.mem_map.1 hpath
  exact ⟨m, hm, heq⟩

/-- Reported modules that start alike belong to one file. -/
lemma path_eq_of_start_eq (hgrouped : MappedModule.GroupedFrom mappings snapshot.modules)
    (horderly : Orderly mappings) {m n : Module} (hm : m ∈ snapshot.reported)
    (hn : n ∈ snapshot.reported) (h : m.start = n.start) : m.path = n.path := by
  obtain ⟨mapped, hmapped, _, rfl⟩ := exists_of_mem_reported hm
  obtain ⟨mapped', hmapped', _, rfl⟩ := exists_of_mem_reported hn
  obtain ⟨mapping, hmapping, hpath, hstart⟩ := (hgrouped.spans mapped hmapped).start.1
  obtain ⟨mapping', hmapping', hpath', hstart'⟩ := (hgrouped.spans mapped' hmapped').start.1
  have hsame : mapping.start = mapping'.start := hstart.trans (h.trans hstart'.symm)
  have heq : mapping = mapping' := by
    by_contra hne
    have hlt := UInt64.lt_iff_toNat_lt.1 (horderly.nonempty mapping hmapping)
    have hlt' := UInt64.lt_iff_toNat_lt.1 (horderly.nonempty mapping' hmapping')
    rw [hsame] at hlt
    rcases horderly.apart hmapping hmapping' hne with hle | hle
    · have := UInt64.le_iff_toNat_le.1 hle
      omega
    · have := UInt64.le_iff_toNat_le.1 hle
      rw [hsame] at this
      omega
  simp only [moduleOf]
  rw [← hpath, ← hpath', heq]

/-- Reported modules of one file are the same, as far as where they lie. -/
lemma start_eq_of_path_eq (hgrouped : MappedModule.GroupedFrom mappings snapshot.modules)
    {m n : Module} (hm : m ∈ snapshot.reported) (hn : n ∈ snapshot.reported)
    (h : m.path = n.path) : m.start = n.start := by
  obtain ⟨mapped, hmapped, _, rfl⟩ := exists_of_mem_reported hm
  obtain ⟨mapped', hmapped', _, rfl⟩ := exists_of_mem_reported hn
  have hsame : mapped = mapped' :=
    (hgrouped.spans mapped hmapped).unique (hgrouped.spans mapped' hmapped') (Option.some.inj h)
  rw [hsame]
  rfl

/-- The files of modules that stand in front of a module and behind it. -/
lemma map_path_eq_append {front back : List Module} {m : Module}
    (hcut : snapshot.reported = front ++ m :: back) {path : String} (hpath : m.path = some path) :
    snapshot.modules.map (·.path) =
      front.filterMap (·.path) ++ path :: back.filterMap (·.path) := by
  have hmap := congrArg (List.filterMap id) snapshot.map_path_reported
  rw [hcut] at hmap
  simpa [List.filterMap_map, Function.comp_def, hpath] using hmap.symm

/-- Files whose module stands in front of the one that is found do not have the address. -/
lemma mem_back_of_not_contains {front back : List Module} {m : Module}
    (hcut : snapshot.reported = front ++ m :: back) {path other : String}
    (hpath : m.path = some path) (hne : other ≠ path)
    (hother : ∃ n ∈ snapshot.reported, n.path = some other)
    (hfront : ∀ n ∈ front, n.path ≠ some other) :
    other ∈ back.filterMap (·.path) := by
  obtain ⟨n, hn, hnpath⟩ := hother
  rw [hcut] at hn
  rcases List.mem_append.1 hn with hn | hn
  · exact absurd hnpath (hfront n hn)
  · rcases List.mem_cons.1 hn with rfl | hn
    · rw [hpath] at hnpath
      exact absurd (Option.some.inj hnpath).symm hne
    · exact List.mem_filterMap.2 ⟨n, hn, hnpath⟩

/-- A mapped address is found in some module. -/
lemma exists_lookupModule (hgrouped : MappedModule.GroupedFrom mappings snapshot.modules)
    {mapping : Mapping} (hmapping : mapping ∈ mappings) (hpc : mapping.Holds pc) :
    ∃ m, snapshot.lookupModule pc = some m := by
  obtain ⟨n, hn, hpath⟩ := exists_module_of_mem hgrouped hmapping
  have hcontains := contains_of_bounds hgrouped hn hmapping hmapping hpath hpath hpc.1 hpc.2
  exact Option.isSome_iff_exists.1 (List.find?_isSome.2 ⟨n, hn, hcontains⟩)

/-- The module that is found for an address is that of the file mapped there, unless the file is
shadowed. -/
lemma path_lookupModule_iff (hgrouped : MappedModule.GroupedFrom mappings snapshot.modules)
    (horderly : Orderly mappings) {mapping : Mapping} (hmapping : mapping ∈ mappings)
    (hpc : mapping.Holds pc) {m : Module} (hm : snapshot.lookupModule pc = some m) :
    m.path = some mapping.path ↔ ¬ Shadowed mappings mapping.path pc := by
  obtain ⟨hcontains, front, back, hcut, hfront⟩ := List.find?_eq_some_iff_append.1 hm
  have hm : m ∈ snapshot.reported := by simp [hcut]
  have hfrontMem : ∀ n ∈ front, n ∈ snapshot.reported := by
    intro n hn
    simp [hcut, hn]
  have hlow := UInt64.le_iff_toNat_le.1 hpc.1
  have hhigh := UInt64.lt_iff_toNat_lt.1 hpc.2
  constructor
  · rintro hpath ⟨lower, hlower, upper, hupper, hsame, hne, hbelow, habove⟩
    -- The module of the other file contains the address, so it cannot stand in front.
    have hback : lower.path ∈ back.filterMap (·.path) := by
      refine mem_back_of_not_contains hcut hpath hne
        (exists_module_of_mem hgrouped hlower) fun n hn hnpath => ?_
      have hlowerPc : lower.start ≤ pc := by
        have hlt := UInt64.lt_iff_toNat_lt.1 (horderly.nonempty lower hlower)
        have hle := UInt64.le_iff_toNat_le.1 (hbelow mapping hmapping rfl)
        rw [UInt64.le_iff_toNat_le]
        omega
      have hpcUpper : pc < upper.stop := UInt64.lt_trans habove (horderly.nonempty upper hupper)
      have hthere := contains_of_bounds hgrouped (hfrontMem n hn) hlower hupper hnpath
        (hsame ▸ hnpath) hlowerPc hpcUpper
      simpa [hthere] using hfront n hn
    -- So the file itself has a mapping below the lowest one of the other.
    obtain ⟨own, hown, hownPath, hownBelow⟩ :=
      horderly.exists_below hgrouped (map_path_eq_append hcut hpath) hback
    have h₁ := UInt64.le_iff_toNat_le.1 (hownBelow lower hlower rfl)
    have h₂ := UInt64.le_iff_toNat_le.1 (hbelow own hown hownPath)
    have h₃ := UInt64.lt_iff_toNat_lt.1 (horderly.nonempty lower hlower)
    have h₄ := UInt64.lt_iff_toNat_lt.1 (horderly.nonempty own hown)
    omega
  · intro hshadowed
    by_contra hpath
    obtain ⟨upper, hupper, hupperPath, habove⟩ := exists_above_of_contains hgrouped hm hcontains
    have hne : mapping.path ≠ upper.path := fun heq => hpath (heq ▸ hupperPath)
    have hback : mapping.path ∈ back.filterMap (·.path) := by
      refine mem_back_of_not_contains hcut hupperPath hne
        (exists_module_of_mem hgrouped hmapping) fun n hn hnpath => ?_
      have hthere := contains_of_bounds hgrouped (hfrontMem n hn) hmapping hmapping hnpath hnpath
        hpc.1 hpc.2
      simpa [hthere] using hfront n hn
    obtain ⟨lower, hlower, hlowerPath, hbelow⟩ :=
      horderly.exists_below hgrouped (map_path_eq_append hcut hupperPath) hback
    refine hshadowed ⟨lower, hlower, upper, hupper, hlowerPath, ?_, hbelow, ?_⟩
    · rw [hlowerPath]
      exact hne.symm
    · -- It ends above the address, so it does not lie below the mapping that holds the address.
      have hapart := horderly.apart hmapping hupper fun heq => hne (heq ▸ rfl)
      rcases hapart with hle | hle
      · exact UInt64.lt_of_lt_of_le hpc.2 hle
      · have h₁ := UInt64.le_iff_toNat_le.1 hle
        have h₂ := UInt64.lt_iff_toNat_lt.1 habove
        omega

/-- A call that returns to an address comes from the application if the address is found in the main
executable. -/
lemma origin_eq_application_iff (hgrouped : MappedModule.GroupedFrom mappings snapshot.modules)
    (horderly : Orderly mappings) {m : Module} (hm : snapshot.lookupModule pc = some m)
    {recorder : Recorder} (hrecorder : recorder.exeStart = snapshot.mainModule.map (·.start))
    {call : Call} (hcall : call.ret = .ok pc) :
    recorder.origin snapshot.engine call = .application ↔
      pc ≠ 0 ∧ ∃ main, snapshot.mainModule = some main ∧ main.path = m.path := by
  have hmem : m ∈ snapshot.reported := List.mem_of_find?_eq_some hm
  have hmain {main : Module} (h : snapshot.mainModule = some main) : main ∈ snapshot.reported :=
    List.mem_reverse.1 (List.mem_of_find?_eq_some h)
  rw [Recorder.origin_eq_application_iff]
  constructor
  · rintro ⟨ret, found, hret, hnull, hfound, hstart⟩
    obtain rfl : pc = ret := Except.ok.inj (hcall.symm.trans hret)
    obtain rfl : m = found := Option.some.inj (hm.symm.trans hfound)
    obtain ⟨main, hfirst, heq⟩ := Option.map_eq_some_iff.1 (hrecorder.symm.trans hstart.symm)
    exact ⟨hnull, main, hfirst, path_eq_of_start_eq hgrouped horderly (hmain hfirst) hmem heq⟩
  · rintro ⟨hnull, main, hfirst, hpath⟩
    have hstart := start_eq_of_path_eq hgrouped (hmain hfirst) hmem hpath
    refine ⟨pc, m, hcall, hnull, hm, ?_⟩
    rw [hrecorder, hfirst, Option.map_some, hstart]

end Snapshot

open Mapping in
/-- **Which file an address is attributed to.**  Let the lines of a text describe mappings in the
kernel's order.  An address in one of them is found in some module, and that is the module of the
file that is mapped there if and only if the file is not shadowed.  A call that returns to the
address counts as a call of the application if and only if the module that is found is that of the
main executable. -/
theorem attributed_iff (snapshot : Snapshot) (text : String) (mappings : List Mapping)
    (mapping : Mapping) (pc : Address) (hmodules : snapshot.modules = MappedModule.ofText text)
    (hlisted : Listed (Text.lines text.toList) mappings) (horderly : Orderly mappings)
    (hmapping : mapping ∈ mappings) (hpc : mapping.Holds pc) :
    ∃ m, snapshot.lookupModule pc = some m ∧
      (m.path = some mapping.path ↔ ¬ Shadowed mappings mapping.path pc) ∧
      ∀ (recorder : Recorder) (call : Call),
        recorder.exeStart = snapshot.mainModule.map (·.start) → call.ret = .ok pc →
          (recorder.origin snapshot.engine call = .application ↔
            pc ≠ 0 ∧ ∃ main, snapshot.mainModule = some main ∧ main.path = m.path) := by
  have hgrouped : MappedModule.GroupedFrom mappings snapshot.modules := by
    rw [hmodules, MappedModule.ofText, listed_iff.1 hlisted]
    exact MappedModule.groupedFrom_ofMappings mappings
  obtain ⟨m, hm⟩ := Snapshot.exists_lookupModule hgrouped hmapping hpc
  exact ⟨m, hm, Snapshot.path_lookupModule_iff hgrouped horderly hmapping hpc hm,
    fun _ _ hrecorder hcall =>
      Snapshot.origin_eq_application_iff hgrouped horderly hm hrecorder hcall⟩

/-! ## A library between the mappings of the main executable -/

namespace Interleaved

def lines : List String :=
  ["1000-2000 r-xp 00000000 08:01 1 /usr/bin/app", "2000-3000 r-xp 00000000 08:01 2 /lib/b.so",
    "3000-4000 rw-p 00001000 08:01 1 /usr/bin/app", "4000-5000 r-xp 00000000 08:01 3 /lib/c.so"]

def text : String := String.ofList (lines.flatMap fun line => line.toList ++ ['\n'])

def app : Mapping := ⟨0x1000, 0x2000, 0, "/usr/bin/app"⟩
def libb : Mapping := ⟨0x2000, 0x3000, 0, "/lib/b.so"⟩
def appData : Mapping := ⟨0x3000, 0x4000, 0x1000, "/usr/bin/app"⟩
def libc : Mapping := ⟨0x4000, 0x5000, 0, "/lib/c.so"⟩

def mappings : List Mapping := [app, libb, appData, libc]

lemma listed : Mapping.Listed (Text.lines text.toList) mappings := by
  rw [Mapping.listed_iff, text, String.toList_ofList]
  decide +kernel

lemma orderly : Mapping.Orderly mappings := ⟨by decide, by decide⟩

/-- The module of the executable reaches over the library in the gap. -/
def snapshot : Snapshot where
  pid := 1
  files := .empty
  modules := [⟨"/usr/bin/app", 0x1000, 0x4000, some 0x1000⟩,
    ⟨"/lib/b.so", 0x2000, 0x3000, some 0x2000⟩, ⟨"/lib/c.so", 0x4000, 0x5000, some 0x4000⟩]
  exe := some "/usr/bin/app"

lemma modules_eq : snapshot.modules = MappedModule.ofText text := by
  rw [MappedModule.ofText, Mapping.listed_iff.1 listed]
  decide +kernel

end Interleaved

open Interleaved in
/-- The library in the gap is taken for the executable, and the one behind it is not. -/
theorem libb_attributed_to_app :
    (∃ m, snapshot.lookupModule 0x2100 = some m ∧ m.path ≠ some libb.path) ∧
      ∃ m, snapshot.lookupModule 0x4100 = some m ∧ m.path = some libc.path := by
  obtain ⟨m, hm, hfile, -⟩ := attributed_iff snapshot text mappings libb 0x2100 modules_eq listed
    orderly (by decide) (by decide)
  obtain ⟨n, hn, hfile', -⟩ := attributed_iff snapshot text mappings libc 0x4100 modules_eq listed
    orderly (by decide) (by decide)
  refine ⟨⟨m, hm, fun hpath => hfile.1 hpath (by decide)⟩, n, hn, hfile'.2 (by decide)⟩

/-- Every mapped address is attributed to the file that is mapped there. -/
def AttributesMappings : Prop :=
  ∀ (snapshot : Snapshot) (text : String) (mappings : List Mapping) (mapping : Mapping)
    (pc : Address), snapshot.modules = MappedModule.ofText text →
      Mapping.Listed (Text.lines text.toList) mappings → Mapping.Orderly mappings →
        mapping ∈ mappings → mapping.Holds pc →
          ∃ m, snapshot.lookupModule pc = some m ∧ m.path = some mapping.path

/-- No call that returns to a mapping of another file counts as a call of the main executable. -/
def TellsLibraries : Prop :=
  ∀ (snapshot : Snapshot) (text : String) (mappings : List Mapping) (mapping : Mapping)
    (recorder : Recorder) (call : Call) (pc : Address),
      snapshot.modules = MappedModule.ofText text →
        Mapping.Listed (Text.lines text.toList) mappings → Mapping.Orderly mappings →
          mapping ∈ mappings → mapping.Holds pc → snapshot.exe ≠ some mapping.path →
            recorder.exeStart = snapshot.mainModule.map (·.start) → call.ret = .ok pc →
              recorder.origin snapshot.engine call ≠ .application

open Interleaved in
/-- Both fail for the library in the gap. -/
theorem not_attributesMappings : ¬ AttributesMappings ∧ ¬ TellsLibraries := by
  constructor
  · intro hattributes
    obtain ⟨m, hm, hpath⟩ := hattributes snapshot text mappings libb 0x2100 modules_eq listed
      orderly (by decide) (by decide)
    have hfound : (snapshot.lookupModule 0x2100).bind (·.path) = some app.path := by
      decide +kernel
    rw [hm, Option.bind_some, hpath] at hfound
    exact absurd hfound (by decide)
  · intro htells
    refine htells snapshot text mappings libb ⟨true, some 0x1000⟩ ⟨0x4100, .ok 0x2100⟩ 0x2100
      modules_eq listed orderly (by decide) (by decide) (by decide) ?_ rfl ?_
    · decide +kernel
    · decide +kernel

end CallTrace
