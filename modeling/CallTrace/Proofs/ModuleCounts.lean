import Mathlib.Algebra.BigOperators.Group.List.Lemmas
import Mathlib.Algebra.GroupWithZero.Nat
import Mathlib.Tactic.Lemma
import CallTrace.Plan

/-!
# How many registrations each module has

A plan counts its rows by going through them once.  `Plan.Tallies` says of a table which rows it
counts without going through anything: it has an entry for each module with a row, also for the
module without a name, and the entry is the number of these rows.  There is one such table
(`Plan.Tallies.unique`), and the counts of a plan are this table (`Plan.tallies_perModule`).

So what holds of numbers of rows holds of the counts (`Plan.counts_add_up`).  The order of the rows
makes no difference, rows behind each other are counted module by module, and no row is lost or
counted twice on the way.
-/

namespace CallTrace

/-! ## The order of names -/

namespace Text

lemma compare_eq_lt_iff {bytes bytes' : List UInt8} :
    compare bytes bytes' = .lt ↔ bytes < bytes' := by
  induction bytes generalizing bytes' with
  | nil => cases bytes' <;> simp
  | cons byte rest ih =>
    cases bytes' with
    | nil => simp
    | cons byte' rest' =>
      rw [List.compare_cons_cons, Ordering.then_eq_lt, Std.compare_eq_lt,
        Std.LawfulEqOrd.compare_eq_iff_eq, ih, List.cons_lt_cons_iff]

/-- Texts are ordered by their bytes. -/
lemma compareBytes_eq_lt_iff {s t : String} : compareBytes s t = .lt ↔ bytes s < bytes t :=
  compare_eq_lt_iff

end Text

namespace Plan

/-! ## Tables that count rows -/

/-- A table tells how many rows each module has.  A module without rows is not in it. -/
structure Tallies (counts : Text.ByteOrderMap Nat) (rows : List PlanRow) : Prop where
  mem_iff : ∀ module, module ∈ counts ↔ ∃ row ∈ rows, row.module = module
  counted : ∀ module n, counts[module]? = some n → n = rows.countP (·.module = module)

namespace Tallies

variable {counts counts' : Text.ByteOrderMap Nat} {rows rows' : List PlanRow}

/-- What a table has for a module. -/
lemma getElem?_eq (h : Tallies counts rows) (module : String) :
    counts[module]? =
      if rows.countP (·.module = module) = 0 then none
      else some (rows.countP (·.module = module)) := by
  have hmem : module ∈ counts ↔ rows.countP (·.module = module) ≠ 0 := by
    rw [h.mem_iff, ← Nat.pos_iff_ne_zero, List.countP_pos_iff]
    simp
  cases hcount : counts[module]? with
  | none =>
    have hnot : module ∉ counts := by
      rw [Std.ExtTreeMap.mem_iff_isSome_getElem?, hcount]
      simp
    rw [if_pos (not_not.1 (mt hmem.2 hnot))]
  | some n =>
    have hthere : module ∈ counts := by
      rw [Std.ExtTreeMap.mem_iff_isSome_getElem?, hcount]
      rfl
    rw [if_neg (hmem.1 hthere), h.counted module n hcount]

lemma getD_eq (h : Tallies counts rows) (module : String) :
    counts.getD module 0 = rows.countP (·.module = module) := by
  rw [Std.ExtTreeMap.getD_eq_getD_getElem?, h.getElem?_eq]
  split
  · rename_i hzero
    exact hzero.symm
  · rfl

/-- No two tables count the same rows. -/
lemma unique (h : Tallies counts rows) (h' : Tallies counts' rows) : counts = counts' :=
  Std.ExtTreeMap.ext_getElem? fun module => by rw [h.getElem?_eq, h'.getElem?_eq]

lemma empty : Tallies ∅ [] := by
  constructor
  · simp
  · simp

/-- One more row is counted in. -/
lemma countRow (h : Tallies counts rows) (row : PlanRow) :
    Tallies (Plan.countRow counts row) (rows ++ [row]) := by
  constructor
  · intro module
    rw [Plan.countRow, Std.ExtTreeMap.mem_insert, h.mem_iff, Std.LawfulEqCmp.compare_eq_iff_eq]
    simp [or_comm]
  · intro module n hn
    rw [Plan.countRow, Std.ExtTreeMap.getElem?_insert, h.getD_eq] at hn
    simp only [Std.LawfulEqCmp.compare_eq_iff_eq] at hn
    rw [List.countP_append]
    by_cases hmodule : row.module = module
    · subst hmodule
      rw [if_pos rfl, Option.some.injEq] at hn
      simp [← hn]
    · rw [if_neg hmodule] at hn
      simp [h.counted module n hn, hmodule]

/-- The rows of a list are counted in one after the other. -/
lemma foldl_countRow (h : Tallies counts rows) (more : List PlanRow) :
    Tallies (more.foldl Plan.countRow counts) (rows ++ more) := by
  induction more generalizing counts rows with
  | nil => rwa [List.append_nil]
  | cons row rest ih =>
    rw [List.foldl_cons, List.append_cons]
    exact ih (h.countRow row)

/-- Where rows stand makes no difference. -/
lemma of_perm (h : Tallies counts rows) (hperm : rows.Perm rows') : Tallies counts rows' := by
  constructor
  · intro module
    rw [h.mem_iff]
    exact exists_congr fun row => and_congr_left fun _ => hperm.mem_iff
  · intro module n hn
    rw [h.counted module n hn, hperm.countP_eq]

/-- The counts of rows behind each other are added up. -/
lemma getElem?_append {both : Text.ByteOrderMap Nat} (h : Tallies counts rows)
    (h' : Tallies counts' rows') (hboth : Tallies both (rows ++ rows')) (module : String) :
    both[module]? = Option.merge (· + ·) counts[module]? counts'[module]? := by
  rw [hboth.getElem?_eq, h.getElem?_eq, h'.getElem?_eq, List.countP_append]
  generalize rows.countP _ = n, rows'.countP _ = k
  -- A module may have rows on both sides, on one of them, or on neither.
  cases n <;> cases k <;> simp

/-- All rows are in the counts, each once. -/
lemma sum_eq_length (h : Tallies counts rows) :
    (counts.toList.map (·.2)).sum = rows.length := by
  have hvalues : counts.toList.map (·.2) =
      counts.keys.map ((rows.map (·.module)).count ·) := by
    rw [← Std.ExtTreeMap.map_fst_toList_eq_keys, List.map_map]
    refine List.map_congr_left fun entry hentry => ?_
    rw [h.counted entry.1 entry.2 (Std.ExtTreeMap.mem_toList_iff_getElem?_eq_some.1 hentry),
      Function.comp_apply, List.count_eq_countP, List.countP_map]
    exact List.countP_congr fun row _ => by simp
  have hkeys : counts.keys.Perm (rows.map (·.module)).dedup := by
    rw [List.perm_ext_iff_of_nodup Std.ExtTreeMap.nodup_keys (List.nodup_dedup _)]
    intro module
    rw [Std.ExtTreeMap.mem_keys, h.mem_iff, List.mem_dedup, List.mem_map]
  rw [hvalues, (hkeys.map _).sum_eq, List.sum_map_count_dedup_eq_length, List.length_map]

end Tallies

lemma tallies_perModule (plan : Plan) : Tallies plan.perModule plan.rows := by
  have h := Tallies.empty.foldl_countRow plan.rows
  rwa [List.nil_append] at h

/-- **The counts of a plan.**  The total is the number of the rows.  The modules of the rows, and no
others, are listed in the order of their bytes, each with the number of its rows, and these numbers
sum up to the total.  A plan with the same rows in another order has the same total and the same
counts, and those of a plan whose rows are put together from two plans are the sums of theirs. -/
theorem counts_add_up (plan : Plan) :
    plan.total = plan.rows.length ∧
    Tallies plan.perModule plan.rows ∧
    (plan.perModule.toList.Pairwise fun entry other =>
      Text.bytes entry.1 < Text.bytes other.1) ∧
    (plan.perModule.toList.map (·.2)).sum = plan.total ∧
    (∀ other : Plan, other.rows.Perm plan.rows →
      other.total = plan.total ∧ other.perModule = plan.perModule) ∧
    ∀ front back : Plan, plan.rows = front.rows ++ back.rows →
      plan.total = front.total + back.total ∧
      ∀ module : String, plan.perModule[module]? =
        Option.merge (· + ·) front.perModule[module]? back.perModule[module]? := by
  have hcounts := plan.tallies_perModule
  refine ⟨rfl, hcounts, ?_, hcounts.sum_eq_length, fun other hperm => ⟨hperm.length_eq, ?_⟩,
    fun front back hrows => ⟨?_, fun module => ?_⟩⟩
  · exact Std.ExtTreeMap.ordered_keys_toList.imp Text.compareBytes_eq_lt_iff.1
  · exact (other.tallies_perModule.of_perm hperm).unique hcounts
  · rw [total, hrows, List.length_append]
    rfl
  · exact front.tallies_perModule.getElem?_append back.tallies_perModule (hrows ▸ hcounts) module

/-! ## Odd names -/

namespace OddNames

def front : Plan := ⟨7, none, true, [⟨0x1000, recorderId, "\uffff", "open"⟩,
  ⟨0x2000, recorderId, "", "orphan"⟩, ⟨0x3000, recorderId, "😀", "smile"⟩]⟩

def back : Plan := ⟨7, some "app", false, [⟨0x4000, recorderId, "libz.so", "inflate"⟩,
  ⟨0x5000, recorderId, "", "stray"⟩, ⟨0x5000, recorderId, "", "stray"⟩]⟩

/-- The rows of both, among them three without a module and two that are the same. -/
def whole : Plan := ⟨7, none, true, front.rows ++ back.rows⟩

def turned : Plan := { whole with rows := whole.rows.reverse }

/-- The order is that of bytes, not of halves of characters. -/
example : whole.perModule.toList = [("", 3), ("libz.so", 1), ("\uffff", 1), ("😀", 1)] := by
  decide +kernel

end OddNames

open OddNames in
/-- Rows without a module are counted like all others, from both sides and in either order. -/
theorem counts_of_odd_names :
    front.perModule[""]? = some 1 ∧ back.perModule[""]? = some 2 ∧
      whole.perModule[""]? = some 3 ∧ turned.perModule[""]? = some 3 := by
  obtain ⟨-, -, -, -, hperm, happend⟩ := counts_add_up whole
  have hfront : front.perModule[""]? = some 1 := by decide +kernel
  have hback : back.perModule[""]? = some 2 := by decide +kernel
  have hwhole : whole.perModule[""]? = some 3 := by
    rw [(happend front back rfl).2 "", hfront, hback]
    rfl
  refine ⟨hfront, hback, hwhole, ?_⟩
  rw [(hperm turned (List.reverse_perm _)).2, hwhole]

end Plan

end CallTrace
