import Mathlib.Data.List.Induction
import Mathlib.Order.Bounds.Basic
import CallTrace.Proofs.MappingLines

/-!
# Mappings grouped into modules

Mappings are grouped by going through them once: each one extends the module of its file, or makes
one if its file has not been met before.  `GroupedFrom` says what comes out without going through
anything: one module for each file, in the order in which the files first appear, from the lowest
start to the highest end of the file's mappings, with the first mapping of the file's beginning as
its base.  A list of mappings determines the modules by these rules alone (`GroupedFrom.unique`).

Together with what single lines describe, this says for every text which modules are read from it
(`modules_of_text_iff`).
-/

namespace CallTrace

/-! ## The mappings of a text -/

namespace Mapping

/-- The mappings that lines describe, in their order; other lines are passed over. -/
inductive Listed : List (List Char) → List Mapping → Prop
  | nil : Listed [] []
  | describes {line lines mapping mappings} : Describes line mapping → Listed lines mappings →
      Listed (line :: lines) (mapping :: mappings)
  | other {line lines mappings} : (∀ mapping, ¬ Describes line mapping) → Listed lines mappings →
      Listed (line :: lines) mappings

lemma listed_iff {lines : List (List Char)} {mappings : List Mapping} :
    Listed lines mappings ↔ lines.filterMap ofLine? = mappings := by
  constructor
  · intro h
    induction h with
    | nil => rfl
    | describes hline _ ih =>
      rw [List.filterMap_cons_some (ofLine?_eq_some_iff.2 hline), ih]
    | other hline _ ih =>
      have hnone : ofLine? _ = none :=
        Option.eq_none_iff_forall_ne_some.2 fun mapping h => hline mapping (ofLine?_eq_some_iff.1 h)
      rw [List.filterMap_cons_none hnone, ih]
  · rintro rfl
    induction lines with
    | nil => exact .nil
    | cons line lines ih =>
      cases hline : ofLine? line with
      | none =>
        rw [List.filterMap_cons_none hline]
        refine .other (fun mapping h => ?_) ih
        rw [← ofLine?_eq_some_iff, hline] at h
        exact absurd h (by simp)
      | some mapping =>
        rw [List.filterMap_cons_some hline]
        exact .describes (ofLine?_eq_some_iff.1 hline) ih

/-- The starts, or the ends, of the mappings of one file. -/
def bounds (bound : Mapping → Address) (mappings : List Mapping) (path : String) : Set Address :=
  {address | ∃ mapping ∈ mappings, mapping.path = path ∧ bound mapping = address}

lemma bounds_concat_of_ne {bound : Mapping → Address} {mappings : List Mapping}
    {mapping : Mapping} {path : String} (h : mapping.path ≠ path) :
    bounds bound (mappings ++ [mapping]) path = bounds bound mappings path := by
  ext address
  simp [bounds, or_and_right, exists_or, h]

lemma mem_bounds_concat_self {bound : Mapping → Address} {mappings : List Mapping}
    {mapping : Mapping} {address : Address} :
    address ∈ bounds bound (mappings ++ [mapping]) mapping.path ↔
      address ∈ bounds bound mappings mapping.path ∨ address = bound mapping := by
  simp [bounds, or_and_right, exists_or, eq_comm]

/-- The first mapping that shows the beginning of a file. -/
def firstBase? (mappings : List Mapping) (path : String) : Option Address :=
  (mappings.find? fun mapping => mapping.path = path ∧ mapping.offset = 0).map (·.start)

lemma firstBase?_concat_of_ne {mappings : List Mapping} {mapping : Mapping} {path : String}
    (h : mapping.path ≠ path) :
    firstBase? (mappings ++ [mapping]) path = firstBase? mappings path := by
  simp [firstBase?, List.find?_append, h]

lemma firstBase?_concat_self {mappings : List Mapping} {mapping : Mapping} :
    firstBase? (mappings ++ [mapping]) mapping.path =
      (firstBase? mappings mapping.path).or mapping.base? := by
  by_cases h : mapping.offset = 0 <;> simp [firstBase?, base?, List.find?_append, h]

end Mapping

/-! ## Modules -/

namespace MappedModule

/-- A module reaches from the lowest start to the highest end of its file's mappings, and its base
is where the first mapping of the file's beginning starts, if there is one. -/
structure Spans (m : MappedModule) (mappings : List Mapping) : Prop where
  start : IsLeast (Mapping.bounds Mapping.start mappings m.path) m.start
  stop : IsGreatest (Mapping.bounds Mapping.stop mappings m.path) m.stop
  base : m.base = Mapping.firstBase? mappings m.path

/-- Modules are what mappings make up: there is one for each file, in the order in which the files
first appear, and each spans the mappings of its file. -/
structure GroupedFrom (mappings : List Mapping) (modules : List MappedModule) : Prop where
  paths : modules.map (·.path) = (mappings.map (·.path)).eraseDups
  spans : ∀ m ∈ modules, m.Spans mappings

/-- Two modules of one file are the same. -/
lemma Spans.unique {m m' : MappedModule} {mappings : List Mapping} (h : m.Spans mappings)
    (h' : m'.Spans mappings) (hpath : m.path = m'.path) : m = m' := by
  obtain ⟨hstart, hstop, hbase⟩ := h
  obtain ⟨hstart', hstop', hbase'⟩ := h'
  rw [hpath] at hstart hstop hbase
  have hlow : m.start = m'.start :=
    UInt64.le_antisymm (hstart.2 hstart'.1) (hstart'.2 hstart.1)
  have hhigh : m.stop = m'.stop :=
    UInt64.le_antisymm (hstop'.2 hstop.1) (hstop.2 hstop'.1)
  cases m
  cases m'
  simp_all

namespace GroupedFrom

variable {mappings : List Mapping} {modules modules' : List MappedModule}

lemma mem_paths (h : GroupedFrom mappings modules) {path : String} :
    path ∈ modules.map (·.path) ↔ ∃ mapping ∈ mappings, mapping.path = path := by
  rw [h.paths, List.mem_eraseDups, List.mem_map]

lemma unique (h : GroupedFrom mappings modules) (h' : GroupedFrom mappings modules') :
    modules = modules' := by
  have hpaths : modules.map (·.path) = modules'.map (·.path) := h.paths.trans h'.paths.symm
  have hlength : modules.length = modules'.length := by simpa using congrArg List.length hpaths
  refine List.ext_getElem hlength fun i hi hi' => ?_
  refine (h.spans _ (List.getElem_mem hi)).unique (h'.spans _ (List.getElem_mem hi')) ?_
  have hpath := List.getElem_of_eq hpaths (by simpa using hi)
  simpa using hpath

end GroupedFrom

/-! ## One more mapping -/

lemma map_path_add (mapping : Mapping) (modules : List MappedModule) :
    (add mapping modules).map (·.path) =
      if mapping.path ∈ modules.map (·.path) then modules.map (·.path)
      else modules.map (·.path) ++ [mapping.path] := by
  induction modules with
  | nil => rfl
  | cons m rest ih =>
    rw [add]
    by_cases hpath : m.path = mapping.path
    · simp [hpath, extend]
    · rw [if_neg hpath, List.map_cons, ih]
      simp only [List.map_cons, List.mem_cons, Ne.symm hpath, false_or]
      split <;> rfl

/-- What a module is that stands in the list when one more mapping has been added. -/
lemma mem_add {mapping : Mapping} {modules : List MappedModule}
    (hnodup : (modules.map (·.path)).Nodup) {m : MappedModule} (hm : m ∈ add mapping modules) :
    (m ∈ modules ∧ mapping.path ≠ m.path) ∨
      (∃ before ∈ modules, before.path = mapping.path ∧ m = before.extend mapping) ∨
        (mapping.path ∉ modules.map (·.path) ∧ m = ofMapping mapping) := by
  induction modules with
  | nil => exact .inr (.inr ⟨by simp, by simpa [add] using hm⟩)
  | cons first rest ih =>
    rw [List.map_cons, List.nodup_cons] at hnodup
    rw [add] at hm
    by_cases hpath : first.path = mapping.path
    · rw [if_pos hpath, List.mem_cons] at hm
      rcases hm with rfl | hm
      · exact .inr (.inl ⟨first, by simp, hpath, rfl⟩)
      · refine .inl ⟨List.mem_cons_of_mem _ hm, fun heq => hnodup.1 ?_⟩
        rw [hpath, heq]
        exact List.mem_map_of_mem hm
    · rw [if_neg hpath, List.mem_cons] at hm
      rcases hm with rfl | hm
      · exact .inl ⟨by simp, Ne.symm hpath⟩
      · rcases ih hnodup.2 hm with ⟨hmem, hne⟩ | ⟨before, hbefore, hsame, hm⟩ | ⟨hnot, hm⟩
        · exact .inl ⟨List.mem_cons_of_mem _ hmem, hne⟩
        · exact .inr (.inl ⟨before, List.mem_cons_of_mem _ hbefore, hsame, hm⟩)
        · refine .inr (.inr ⟨?_, hm⟩)
          rw [List.map_cons, List.mem_cons, not_or]
          exact ⟨Ne.symm hpath, hnot⟩

lemma eraseDups_concat (paths : List String) (path : String) :
    (paths ++ [path]).eraseDups =
      if path ∈ paths then paths.eraseDups else paths.eraseDups ++ [path] := by
  have hsingle : [path].eraseDups = [path] := by rw [List.eraseDups_cons]; rfl
  rw [List.eraseDups_append]
  by_cases hpath : path ∈ paths <;> simp [List.removeAll, hpath, hsingle]

lemma nodup_eraseDups (paths : List String) : paths.eraseDups.Nodup := by
  induction paths using List.reverseRecOn with
  | nil => exact List.nodup_nil
  | append_singleton paths path ih =>
    rw [eraseDups_concat]
    split
    · exact ih
    · rename_i hpath
      refine List.nodup_append.2 ⟨ih, by simp, ?_⟩
      rintro other hother _ (_ | ⟨_, ⟨⟩⟩) rfl
      exact hpath (List.mem_eraseDups.1 hother)

lemma isLeast_min {addresses after : Set Address} {least address : Address}
    (h : IsLeast addresses least)
    (hafter : ∀ other, other ∈ after ↔ other ∈ addresses ∨ other = address) :
    IsLeast after (min least address) := by
  have hmin : min least address = if least ≤ address then least else address := rfl
  rw [hmin]
  split <;> rename_i hle
  · refine ⟨(hafter _).2 (.inl h.1), fun other hother => ?_⟩
    rcases (hafter other).1 hother with hother | rfl
    · exact h.2 hother
    · exact hle
  · refine ⟨(hafter _).2 (.inr rfl), fun other hother => ?_⟩
    have hle' : address ≤ least := UInt64.le_of_lt (UInt64.not_le.1 hle)
    rcases (hafter other).1 hother with hother | rfl
    · exact UInt64.le_trans hle' (h.2 hother)
    · exact UInt64.le_refl other

lemma isGreatest_max {addresses after : Set Address} {greatest address : Address}
    (h : IsGreatest addresses greatest)
    (hafter : ∀ other, other ∈ after ↔ other ∈ addresses ∨ other = address) :
    IsGreatest after (max greatest address) := by
  have hmax : max greatest address = if greatest ≤ address then address else greatest := rfl
  rw [hmax]
  split <;> rename_i hle
  · refine ⟨(hafter _).2 (.inr rfl), fun other hother => ?_⟩
    rcases (hafter other).1 hother with hother | rfl
    · exact UInt64.le_trans (h.2 hother) hle
    · exact UInt64.le_refl other
  · refine ⟨(hafter _).2 (.inl h.1), fun other hother => ?_⟩
    rcases (hafter other).1 hother with hother | rfl
    · exact h.2 hother
    · exact UInt64.le_of_lt (UInt64.not_le.1 hle)

namespace Spans

variable {m : MappedModule} {mappings : List Mapping} {mapping : Mapping}

/-- A mapping of another file makes no difference. -/
lemma concat_of_ne (h : m.Spans mappings) (hne : mapping.path ≠ m.path) :
    m.Spans (mappings ++ [mapping]) := by
  constructor
  · rw [Mapping.bounds_concat_of_ne hne]
    exact h.start
  · rw [Mapping.bounds_concat_of_ne hne]
    exact h.stop
  · rw [Mapping.firstBase?_concat_of_ne hne]
    exact h.base

lemma extend (h : m.Spans mappings) (hpath : m.path = mapping.path) :
    (m.extend mapping).Spans (mappings ++ [mapping]) := by
  constructor
  · refine isLeast_min h.start fun other => ?_
    rw [MappedModule.extend, hpath]
    exact Mapping.mem_bounds_concat_self
  · refine isGreatest_max h.stop fun other => ?_
    rw [MappedModule.extend, hpath]
    exact Mapping.mem_bounds_concat_self
  · rw [MappedModule.extend, hpath, Mapping.firstBase?_concat_self, h.base, hpath]

/-- The first mapping of a file spans what there is of it. -/
lemma ofMapping (hfirst : ∀ other ∈ mappings, other.path ≠ mapping.path) :
    (ofMapping mapping).Spans (mappings ++ [mapping]) := by
  have hsingle (bound : Mapping → Address) (address : Address) :
      address ∈ Mapping.bounds bound (mappings ++ [mapping]) mapping.path ↔
        address = bound mapping := by
    rw [Mapping.mem_bounds_concat_self, or_iff_right]
    rintro ⟨other, hother, hpath, -⟩
    exact hfirst other hother hpath
  constructor
  · refine ⟨(hsingle _ _).2 rfl, fun other hother => ?_⟩
    rw [(hsingle _ _).1 hother]
    exact UInt64.le_refl _
  · refine ⟨(hsingle _ _).2 rfl, fun other hother => ?_⟩
    rw [(hsingle _ _).1 hother]
    exact UInt64.le_refl _
  · have hnone : Mapping.firstBase? mappings mapping.path = none := by
      rw [Mapping.firstBase?, Option.map_eq_none_iff, List.find?_eq_none]
      intro other hother hthere
      simp only [decide_eq_true_eq] at hthere
      exact hfirst other hother hthere.1
    rw [MappedModule.ofMapping, Mapping.firstBase?_concat_self, hnone, Option.none_or]

end Spans

namespace GroupedFrom

variable {mappings : List Mapping} {modules : List MappedModule}

lemma nodup (h : GroupedFrom mappings modules) : (modules.map (·.path)).Nodup :=
  h.paths ▸ nodup_eraseDups _

lemma concat (h : GroupedFrom mappings modules) (mapping : Mapping) :
    GroupedFrom (mappings ++ [mapping]) (add mapping modules) := by
  constructor
  · have hmem : mapping.path ∈ modules.map (·.path) ↔ mapping.path ∈ mappings.map (·.path) := by
      rw [h.mem_paths, List.mem_map]
    rw [map_path_add, List.map_append, List.map_singleton, eraseDups_concat, ← h.paths]
    exact if_congr hmem rfl rfl
  · intro m hm
    rcases mem_add h.nodup hm with ⟨hmem, hne⟩ | ⟨before, hbefore, hpath, rfl⟩ | ⟨hnot, rfl⟩
    · exact (h.spans m hmem).concat_of_ne hne
    · exact (h.spans before hbefore).extend hpath
    · exact .ofMapping fun other hother hpath => hnot (h.mem_paths.2 ⟨other, hother, hpath⟩)

end GroupedFrom

lemma ofMappings_concat (mappings : List Mapping) (mapping : Mapping) :
    ofMappings (mappings ++ [mapping]) = add mapping (ofMappings mappings) := by
  rw [ofMappings, List.foldl_append]
  rfl

lemma groupedFrom_ofMappings (mappings : List Mapping) :
    GroupedFrom mappings (ofMappings mappings) := by
  induction mappings using List.reverseRecOn with
  | nil => exact ⟨rfl, by simp [ofMappings]⟩
  | append_singleton mappings mapping ih =>
    rw [ofMappings_concat]
    exact ih.concat mapping

end MappedModule

/-- **The modules of a text.**  What is read from a text are the modules that the mappings make up
which its lines describe. -/
theorem modules_of_text_iff (text : String) (modules : List MappedModule) :
    MappedModule.ofText text = modules ↔
      ∃ mappings, Mapping.Listed (Text.lines text.toList) mappings ∧
        MappedModule.GroupedFrom mappings modules := by
  constructor
  · rintro rfl
    exact ⟨_, Mapping.listed_iff.2 rfl, MappedModule.groupedFrom_ofMappings _⟩
  · rintro ⟨mappings, hlisted, hgrouped⟩
    rw [MappedModule.ofText, Mapping.listed_iff.1 hlisted]
    exact (MappedModule.groupedFrom_ofMappings mappings).unique hgrouped

-- One carriage return goes with a line feed; a lone one does not end a line.
example : Text.lines "a\r\r\nb\rc\r\n\n".toList = ["a\r".toList, "b\rc".toList, []] := by
  decide +kernel

-- All blanks of Unicode separate fields, and a zero-width space is none of them.
example : MappedModule.ofText
    "1-2\u0085r\u000b0\u20030:0 0 /lib/a\u3000\r\n3-4 r 0 0:0 0 /lib/\rb\u200b\r" =
      [⟨"/lib/a", 1, 2, some 1⟩, ⟨"/lib/\rb\u200b", 3, 4, some 3⟩] := by
  decide +kernel

end CallTrace
