import Mathlib.Data.List.TakeWhile
import CallTrace.Proofs.ListedEntries
import CallTrace.Proofs.LoadAtomicity

/-!
# The log of a load

A load notes every symbol that it wraps, and the notices are all that a user sees of its work.  This
file says that they can be believed (`load_log_truthful`).

What a load enters into the journal falls into two parts.  While the exports are enumerated there
are calls of resolvers and notices about exports (`Engine.enumerate_surveys`).  After that comes the
work, one request with one notice for each symbol, and an ending.  No entry comes twice in an
enumeration, so what becomes of a symbol is settled by the table that the load begins with, and the
whole work can be written down from this table (`Interception.exists_work`).  What the log tells
about wrapped symbols, refusals and numbers is read off from there.
-/

namespace CallTrace

/-! ## Kinds of entries -/

/-- A notice about an export, as an enumeration makes them. -/
def Notice.isAboutExport : Notice → Bool
  | resolverFaulted .. | indirected .. | aliased .. | exportsUnreadable .. => true
  | _ => false

/-- A notice that a symbol is wrapped. -/
def Notice.isWrapping : Notice → Bool
  | wrapping .. => true
  | _ => false

/-- A notice that a load has come to its end. -/
def Notice.isEnding : Notice → Bool
  | loaded .. | rolledBack .. => true
  | _ => false

/-- A request to wrap that the engine has granted. -/
def Request.isGrantedWrap : Request → Bool
  | wrap _ _ _ none => true
  | _ => false

/-- A request to unwrap. -/
def Request.isUnwrap : Request → Bool
  | unwrap .. => true
  | _ => false

/-- A notice about an export is none of a load's own. -/
lemma Notice.not_own_of_isAboutExport {notice : Notice} (h : notice.isAboutExport) :
    notice.isWrapping = false ∧ notice.isEnding = false ∧ notice.level ≠ .warn := by
  cases notice <;> simp_all [isAboutExport, isWrapping, isEnding, level]

/-- What an enumeration enters into the journal: calls of resolvers and notices about exports. -/
def Effect.isSurvey : Effect → Bool
  | .request (.resolve ..) => true
  | .notice n => n.isAboutExport
  | _ => false

namespace Journal

lemma notices_append (journal more : Journal) :
    (journal ++ more).notices = journal.notices ++ more.notices := by
  simp [notices]

lemma requests_append (journal more : Journal) :
    (journal ++ more).requests = journal.requests ++ more.requests := by
  simp [requests]

/-- A view of a survey that shows no notices about exports is empty. -/
lemma filter_notices_of_isSurvey {journal : Journal} (h : ∀ effect ∈ journal, effect.isSurvey)
    (p : Notice → Bool) (hp : ∀ notice : Notice, notice.isAboutExport → p notice = false) :
    journal.notices.filter p = [] := by
  rw [List.filter_eq_nil_iff]
  intro notice hnotice
  obtain ⟨effect, heffect, hview⟩ := List.mem_filterMap.1 hnotice
  have hsurvey := h effect (Array.mem_toList_iff.1 heffect)
  cases effect <;> simp only [Option.some.injEq, reduceCtorEq] at hview
  subst hview
  simpa using hp _ hsurvey

lemma filter_requests_of_isSurvey {journal : Journal} (h : ∀ effect ∈ journal, effect.isSurvey)
    (p : Request → Bool) (hp : ∀ resolver answer, p (.resolve resolver answer) = false) :
    journal.requests.filter p = [] := by
  rw [List.filter_eq_nil_iff]
  intro request hrequest
  obtain ⟨effect, heffect, hview⟩ := List.mem_filterMap.1 hrequest
  have hsurvey := h effect (Array.mem_toList_iff.1 heffect)
  cases effect <;> simp only [Option.some.injEq, reduceCtorEq] at hview
  subst hview
  rename_i request
  cases request <;> simp_all [Effect.isSurvey]

end Journal

/-! ## The enumeration -/

/-- `after` has come from `before` by a survey of exports, as far as the journal tells. -/
def Run.Surveys (before after : Run) : Prop :=
  ∃ listing : Journal, after.journal = before.journal ++ listing ∧
    ∀ effect ∈ listing, effect.isSurvey

namespace Run.Surveys

variable {first second third : Run}

lemma refl (run : Run) : Surveys run run := ⟨#[], by simp, by simp⟩

lemma trans (h : Surveys first second) (h' : Surveys second third) : Surveys first third := by
  obtain ⟨listing, hlisting, hall⟩ := h
  obtain ⟨more, hmore, hall'⟩ := h'
  refine ⟨listing ++ more, by rw [hmore, hlisting, Array.append_assoc], fun effect heffect => ?_⟩
  rcases Array.mem_append.1 heffect with heffect | heffect
  · exact hall effect heffect
  · exact hall' effect heffect

lemma note (run : Run) {notice : Notice} (h : notice.isAboutExport) :
    Surveys run (run.note notice) :=
  ⟨#[.notice notice], by simp [Run.note, Run.enter], by simpa [Effect.isSurvey] using h⟩

end Run.Surveys

namespace Engine

variable (engine : Engine)

lemma resolveIndirect_surveys (symbol : Export) (run : Run) :
    Run.Surveys run (engine.resolveIndirect symbol run).2 := by
  have hcall : Run.Surveys run (engine.resolve symbol.addr run).2 :=
    ⟨#[.request (.resolve symbol.addr (engine.resolver run.resolverCalls symbol.addr))],
      by simp [resolve, Run.enter], by simp [Effect.isSurvey]⟩
  unfold resolveIndirect
  split <;> rename_i heq <;> rw [heq] at hcall
  · exact hcall.trans (.note _ rfl)
  · exact (hcall.trans (.note _ rfl)).trans (.note _ rfl)

lemma resolveEntry_surveys (symbol : Export) (run : Run) :
    Run.Surveys run (engine.resolveEntry symbol run).2 := by
  unfold resolveEntry
  split
  · exact .refl run
  · exact .refl run
  · exact .refl run
  · exact engine.resolveIndirect_surveys symbol run

lemma enumerateTable_surveys (seen : List Address) (table : List Export) (run : Run) :
    Run.Surveys run (engine.enumerateTable seen table run).2 := by
  induction table generalizing seen run with
  | nil => exact .refl run
  | cons symbol rest ih =>
    have hentry := engine.resolveEntry_surveys symbol run
    simp only [enumerateTable]
    split <;> rename_i heq <;> rw [heq] at hentry
    · exact hentry.trans (ih _ _)
    · split
      · exact hentry.trans ((Run.Surveys.note _ rfl).trans (ih _ _))
      · exact hentry.trans (ih _ _)

lemma enumerate_surveys (m : Module) (run : Run) :
    Run.Surveys run (engine.enumerate m run).2 := by
  have hlist : Run.Surveys run (engine.listExports m run).2 := by
    unfold listExports
    split
    · exact .refl run
    · exact .note run rfl
  exact hlist.trans (engine.enumerateTable_surveys _ _ _)

/-! ## Requests -/

variable {engine} {run after : Run} {key : Key} {pc : Address} {cause : WrapError}

lemma wrapRefusal?_eq_none_iff :
    engine.wrapRefusal? run (Key.recorder pc) = none ↔ engine.Wrappable run.registrations pc := by
  unfold wrapRefusal? Wrappable
  cases engine.refusesWrap pc <;> simp

lemma exists_wrapRefusal? (h : ¬ engine.Wrappable run.registrations pc) :
    ∃ cause, engine.wrapRefusal? run (Key.recorder pc) = some cause ∧
      engine.WrapRefusal run.registrations pc cause := by
  obtain ⟨cause, hcause⟩ := exists_wrapRefusal h
  exact ⟨cause, hcause.wrapRefusal?_eq, hcause⟩

/-- What is refused depends on what is there. -/
lemma wrapRefusal?_congr (h : key ∈ after.registrations ↔ key ∈ run.registrations) :
    engine.wrapRefusal? after key = engine.wrapRefusal? run key := by
  unfold wrapRefusal?
  simp only [h]

lemma wrappable_congr
    (h : Key.recorder pc ∈ after.registrations ↔ Key.recorder pc ∈ run.registrations) :
    engine.Wrappable after.registrations pc ↔ engine.Wrappable run.registrations pc := by
  rw [← wrapRefusal?_eq_none_iff, ← wrapRefusal?_eq_none_iff, wrapRefusal?_congr h]

/-- A request to wrap is answered by what `wrapRefusal?` says, and entered with this answer. -/
lemma wrap_eq (pc : Address) (hook : Hook) (data : String) (run : Run) :
    ∃ after, engine.wrap pc hook data run = (engine.wrapRefusal? run ⟨pc, hook.id⟩, after) ∧
      after.journal = run.journal.push
        (.request (.wrap pc hook.id data (engine.wrapRefusal? run ⟨pc, hook.id⟩))) ∧
      ∀ key, key ∈ after.registrations ↔ key ∈ run.registrations ∨
        engine.wrapRefusal? run ⟨pc, hook.id⟩ = none ∧ key = ⟨pc, hook.id⟩ := by
  cases hrefusal : engine.wrapRefusal? run ⟨pc, hook.id⟩ with
  | none =>
    simp only [wrap, hrefusal]
    refine ⟨_, rfl, rfl, fun key => ?_⟩
    rw [Run.enter, Std.ExtTreeMap.mem_insert, Std.LawfulEqCmp.compare_eq_iff_eq]
    simp [or_comm, eq_comm]
  | some cause =>
    simp only [wrap, hrefusal]
    refine ⟨_, rfl, rfl, fun key => ?_⟩
    simp [Run.enter]

lemma unwrap_eq_of_unwrappable (h : engine.Unwrappable run.registrations pc) :
    ∃ after, engine.unwrap pc recorderId run = (none, after) ∧
      after.journal = run.journal.push (.request (.unwrap pc recorderId none)) ∧
      after.registrations = run.registrations.erase (Key.recorder pc) := by
  have hnone : engine.unwrapRefusal? run (Key.recorder pc) = none := by
    simp only [unwrapRefusal?, h.1]
    exact if_pos h.2
  simp only [unwrap, hnone]
  exact ⟨_, rfl, rfl, rfl⟩

end Engine

/-! ## The work -/

/-- The request to wrap a symbol, with the answer to it. -/
def Request.ofAnswer (symbol : ResolvedExport) (answer : Option WrapError) : Request :=
  .wrap symbol.entry recorderId symbol.name answer

/-- The notice about such a request. -/
def Notice.ofAnswer (m : Module) (symbol : ResolvedExport) : Option WrapError → Notice
  | none => .wrapping m.name symbol.name symbol.entry symbol.resolver
  | some cause => .refused (.wrapFailed m.name symbol.name cause)

namespace Interception

/-- The symbols that a load deals with: with `ignore` all of them, with `abort` those in front of
the first that cannot be wrapped. -/
def dealtWith (interception : Interception) (engine : Engine) (table : Registrations)
    (symbols : List ResolvedExport) : List ResolvedExport :=
  match interception.checks with
  | .ignore => symbols
  | .abort => symbols.takeWhile fun symbol => engine.Wrappable table symbol.entry

/-- The symbols that a load wraps. -/
def wrapped (interception : Interception) (engine : Engine) (table : Registrations)
    (symbols : List ResolvedExport) : List ResolvedExport :=
  (interception.dealtWith engine table symbols).filter fun symbol =>
    engine.Wrappable table symbol.entry

/-- The symbols that a load passes over, going on to the next one. -/
def passedOver (interception : Interception) (engine : Engine) (table : Registrations)
    (symbols : List ResolvedExport) : List ResolvedExport :=
  (interception.dealtWith engine table symbols).filter fun symbol =>
    ¬ engine.Wrappable table symbol.entry

/-- What a load that has begun at `run` enters for a symbol and goes on. -/
def entriesFor (engine : Engine) (m : Module) (run : Run) (symbol : ResolvedExport) : List Effect :=
  let answer := engine.wrapRefusal? run (Key.recorder symbol.entry)
  [.request (.ofAnswer symbol answer), .notice (.ofAnswer m symbol answer)]

/-- What a load enters that is given up at a symbol, once it has wrapped some others. -/
def entriesGivenUp (m : Module) (wrapped : List ResolvedExport) (symbol : ResolvedExport)
    (cause : WrapError) : List Effect :=
  .request (.wrap symbol.entry recorderId symbol.name (some cause)) ::
    wrapped.map (fun other => .request (.unwrap other.entry recorderId none)) ++
    [.notice (.rolledBack m.name wrapped.length)]

/-- What a load that has wrapped some symbols enters at its end, by its answer. -/
inductive Ends (m : Module) (wrapped : List ResolvedExport) :
    Except InterceptError Nat → List Effect → Prop
  | loaded : Ends m wrapped (.ok wrapped.length) [.notice (.loaded m.name wrapped.length)]
  | givenUp (symbol : ResolvedExport) (cause : WrapError) :
      Ends m wrapped (.error (.wrapFailed m.name symbol.name cause))
        (entriesGivenUp m wrapped symbol cause)

variable {interception : Interception} {engine : Engine} {m : Module} {run : Run}
  {symbols : List ResolvedExport}

/-- One symbol that a load goes on from. -/
lemma wrapAll_cons (interception : Interception) (m : Module) (installed : List Address)
    (symbol : ResolvedExport) (rest : List ResolvedExport)
    (h : interception.checks = .ignore ∨ engine.Wrappable run.registrations symbol.entry) :
    ∃ after, interception.wrapAll engine m installed (symbol :: rest) run =
        interception.wrapAll engine m (installed ++ ([symbol].filter fun symbol =>
          engine.Wrappable run.registrations symbol.entry).map (·.entry)) rest after ∧
      after.journal.toList = run.journal.toList ++ entriesFor engine m run symbol ∧
      ∀ key, key ∈ after.registrations ↔ key ∈ run.registrations ∨
        engine.Wrappable run.registrations symbol.entry ∧ key = Key.recorder symbol.entry := by
  obtain ⟨after, hafter, hjournal, hmem⟩ :=
    engine.wrap_eq symbol.entry (.recorder interception.recorder) symbol.name run
  cases hrefusal : engine.wrapRefusal? run (Key.recorder symbol.entry) with
  | none =>
    have hwrap := Engine.wrapRefusal?_eq_none_iff.1 hrefusal
    refine ⟨after.note (.wrapping m.name symbol.name symbol.entry symbol.resolver), ?_, ?_, ?_⟩
    · simp [wrapAll, hafter, Hook.id, hrefusal, hwrap]
    · simp [entriesFor, Request.ofAnswer, Notice.ofAnswer, Run.note, Run.enter, hjournal, Hook.id,
        hrefusal]
    · intro key
      simp [Run.note, Run.enter, hmem, Hook.id, hrefusal, hwrap]
  | some cause =>
    have hwrap : ¬ engine.Wrappable run.registrations symbol.entry := fun hwrap =>
      absurd (Engine.wrapRefusal?_eq_none_iff.2 hwrap) (by simp [hrefusal])
    have hignore := h.resolve_right hwrap
    refine ⟨after.note (.refused (.wrapFailed m.name symbol.name cause)), ?_, ?_, ?_⟩
    · simp [wrapAll, hafter, Hook.id, hrefusal, hignore, hwrap]
    · simp [entriesFor, Request.ofAnswer, Notice.ofAnswer, Run.note, Run.enter, hjournal, Hook.id,
        hrefusal]
    · intro key
      simp [Run.note, Run.enter, hmem, Hook.id, hrefusal, hwrap]

/-- A load gets through symbols that are not in its way, and what it enters for them depends on the
table that it begins with. -/
lemma wrapAll_front (interception : Interception) (m : Module) (installed : List Address)
    {front : List ResolvedExport} (back : List ResolvedExport)
    (hnodup : (front.map (·.entry)).Nodup)
    (h : interception.checks = .ignore ∨
      ∀ symbol ∈ front, engine.Wrappable run.registrations symbol.entry) :
    ∃ after, interception.wrapAll engine m installed (front ++ back) run =
        interception.wrapAll engine m (installed ++ (front.filter fun symbol =>
          engine.Wrappable run.registrations symbol.entry).map (·.entry)) back after ∧
      after.journal.toList = run.journal.toList ++ front.flatMap (entriesFor engine m run) ∧
      ∀ key, key ∈ after.registrations ↔ key ∈ run.registrations ∨ ∃ symbol ∈ front,
        engine.Wrappable run.registrations symbol.entry ∧ key = Key.recorder symbol.entry := by
  induction front generalizing installed run with
  | nil => exact ⟨run, by simp, by simp, by simp⟩
  | cons symbol front ih =>
    rw [List.map_cons, List.nodup_cons] at hnodup
    have hhead : interception.checks = .ignore ∨
        engine.Wrappable run.registrations symbol.entry :=
      h.imp_right fun hall => hall symbol List.mem_cons_self
    obtain ⟨next, hstep, hjournal, hmem⟩ :=
      wrapAll_cons interception m installed symbol (front ++ back) hhead
    -- No other symbol has this entry, so nothing has changed for those to come.
    have hsame : ∀ other ∈ front, Key.recorder other.entry ∈ next.registrations ↔
        Key.recorder other.entry ∈ run.registrations := by
      intro other hother
      have hne : other.entry ≠ symbol.entry := fun heq =>
        hnodup.1 (heq ▸ List.mem_map_of_mem hother)
      rw [hmem, or_iff_left]
      rintro ⟨-, hkey⟩
      exact hne (congrArg Key.pc hkey)
    have hwrap : ∀ other ∈ front, engine.Wrappable next.registrations other.entry ↔
        engine.Wrappable run.registrations other.entry := fun other hother =>
      Engine.wrappable_congr (hsame other hother)
    have hrest : interception.checks = .ignore ∨
        ∀ other ∈ front, engine.Wrappable next.registrations other.entry :=
      h.imp_right fun hall other hother =>
        (hwrap other hother).2 (hall other (List.mem_cons_of_mem _ hother))
    obtain ⟨after, hafter, hjournal', hmem'⟩ := @ih next _ hnodup.2 hrest
    have hfilter : (front.filter fun other => engine.Wrappable next.registrations other.entry) =
        front.filter fun other => engine.Wrappable run.registrations other.entry :=
      List.filter_congr fun other hother => by simpa using hwrap other hother
    have hentries : front.flatMap (entriesFor engine m next) =
        front.flatMap (entriesFor engine m run) :=
      List.flatMap_congr fun other hother => by
        simp only [entriesFor, Engine.wrapRefusal?_congr (hsame other hother)]
    refine ⟨after, ?_, ?_, fun key => ?_⟩
    · rw [List.cons_append, hstep, hafter, hfilter, List.append_assoc, ← List.map_append,
        ← List.filter_append, List.singleton_append]
    · rw [hjournal', hjournal, hentries, List.flatMap_cons, List.append_assoc]
    · rw [hmem', hmem, List.exists_mem_cons_iff, or_assoc]
      refine or_congr_right (or_congr_right (exists_congr fun other => ?_))
      exact and_congr_right fun hother => and_congr_left fun _ => hwrap other hother

/-- What can be taken back is taken back, and the number is noted. -/
lemma journal_rollBack {installed : List Address} (hnodup : installed.Nodup)
    (h : ∀ pc ∈ installed, engine.Unwrappable run.registrations pc) :
    (rollBack engine m installed run).journal.toList = run.journal.toList ++
      (installed.map (fun pc => .request (.unwrap pc recorderId none)) ++
        [.notice (.rolledBack m.name installed.length)]) := by
  rw [← List.append_assoc]
  simp only [rollBack, Run.note, Run.enter, Array.toList_push]
  congr 1
  induction installed generalizing run with
  | nil => simp
  | cons pc rest ih =>
    rw [List.nodup_cons] at hnodup
    rw [List.forall_mem_cons] at h
    obtain ⟨after, hafter, hjournal, htable⟩ := Engine.unwrap_eq_of_unwrappable h.1
    have hrest : ∀ other ∈ rest, engine.Unwrappable after.registrations other := by
      intro other hother
      have hne : pc ≠ other := fun heq => hnodup.1 (heq ▸ hother)
      rw [htable, Engine.unwrappable_erase_of_ne hne]
      exact h.2 other hother
    rw [List.foldl_cons]
    simp only [hafter]
    rw [ih hnodup.2 hrest, hjournal, Array.toList_push, List.map_cons, List.append_assoc,
      List.singleton_append]

/-- Under `abort` a load is given up at a symbol that is refused, and takes back what it has wrapped
so far. -/
lemma wrapAll_givenUp (m : Module) (habort : interception.checks = .abort)
    (hunwraps : ∀ pc, engine.refusesUnwrap pc = none) {wrapped : List ResolvedExport}
    {symbol : ResolvedExport} (back : List ResolvedExport)
    (hnodup : (wrapped.map (·.entry)).Nodup)
    (hthere : ∀ other ∈ wrapped, Key.recorder other.entry ∈ run.registrations)
    (hrefused : ¬ engine.Wrappable run.registrations symbol.entry) :
    ∃ (after : Run) (failure : InterceptError) (ending : List Effect),
      interception.wrapAll engine m (wrapped.map (·.entry)) (symbol :: back) run =
        (.error failure, after) ∧
      after.journal.toList = run.journal.toList ++ ending ∧
      Ends m wrapped (.error failure) ending := by
  obtain ⟨after, hafter, hjournal, hmem⟩ :=
    engine.wrap_eq symbol.entry (.recorder interception.recorder) symbol.name run
  obtain ⟨cause, hcause, -⟩ := Engine.exists_wrapRefusal? hrefused
  simp only [Hook.id, hcause, reduceCtorEq, false_and, or_false] at hafter hjournal hmem
  have hunwrap : ∀ pc ∈ wrapped.map (·.entry), engine.Unwrappable after.registrations pc := by
    intro pc hpc
    obtain ⟨other, hother, rfl⟩ := List.mem_map.1 hpc
    exact ⟨hunwraps _, (hmem _).2 (hthere other hother)⟩
  have hback := journal_rollBack (m := m) hnodup hunwrap
  have hgivenUp : interception.wrapAll engine m (wrapped.map (·.entry)) (symbol :: back) run =
      (.error (.wrapFailed m.name symbol.name cause),
        rollBack engine m (wrapped.map (·.entry)) after) := by
    simp only [wrapAll, hafter, habort]
  refine ⟨_, _, _, hgivenUp, ?_, .givenUp symbol cause⟩
  rw [hback, hjournal]
  simp [entriesGivenUp, Function.comp_def]

/-- What a load deals with is followed by nothing, or by a symbol at which it is given up. -/
lemma exists_eq_dealtWith_append (interception : Interception) (engine : Engine)
    (table : Registrations) (symbols : List ResolvedExport) :
    ∃ rest, symbols = interception.dealtWith engine table symbols ++ rest ∧
      (interception.checks = .ignore ∨
        ∀ symbol ∈ interception.dealtWith engine table symbols,
          engine.Wrappable table symbol.entry) ∧
      ∀ symbol ∈ rest.head?,
        interception.checks = .abort ∧ ¬ engine.Wrappable table symbol.entry := by
  unfold dealtWith
  cases hchecks : interception.checks with
  | ignore => exact ⟨[], by simp, .inl rfl, by simp⟩
  | abort =>
    refine ⟨symbols.dropWhile fun symbol => engine.Wrappable table symbol.entry,
      List.takeWhile_append_dropWhile.symm, .inr fun symbol hsymbol => ?_, fun symbol hsymbol =>
      ⟨rfl, ?_⟩⟩
    · simpa using List.mem_takeWhile_imp hsymbol
    · have hhead := List.head?_dropWhile_not
        (fun symbol => decide (engine.Wrappable table symbol.entry)) symbols
      rw [Option.mem_def] at hsymbol
      rw [hsymbol] at hhead
      simpa using hhead

/-- **The work of a load.**  For the symbols that it deals with it enters a request and a notice
each, and at the end what goes with its answer. -/
lemma exists_work (interception : Interception) (engine : Engine) (m : Module) (run : Run)
    (hunwraps : ∀ pc, engine.refusesUnwrap pc = none) (hnodup : (symbols.map (·.entry)).Nodup) :
    ∃ ending : List Effect,
      (interception.wrapAll engine m [] symbols run).2.journal.toList = run.journal.toList ++
        ((interception.dealtWith engine run.registrations symbols).flatMap
          (entriesFor engine m run) ++ ending) ∧
      Ends m (interception.wrapped engine run.registrations symbols)
        (interception.wrapAll engine m [] symbols run).1 ending := by
  obtain ⟨rest, hsymbols, hdealt, hrest⟩ :=
    exists_eq_dealtWith_append interception engine run.registrations symbols
  rw [hsymbols, List.map_append, List.nodup_append] at hnodup
  obtain ⟨hdealtNodup, -, hdisjoint⟩ := hnodup
  obtain ⟨after, hafter, hjournal, hmem⟩ :=
    wrapAll_front interception m [] rest hdealtNodup hdealt
  rw [List.nil_append, ← wrapped, ← hsymbols] at hafter
  rw [hafter]
  cases rest with
  | nil =>
    have hanswer : (interception.wrapAll engine m ((interception.wrapped engine run.registrations
        symbols).map (·.entry)) [] after).1 =
          .ok (interception.wrapped engine run.registrations symbols).length := by
      simp only [wrapAll, List.length_map]
    rw [hanswer]
    refine ⟨_, ?_, .loaded⟩
    simp [wrapAll, Run.note, Run.enter, hjournal]
  | cons symbol back =>
    obtain ⟨habort, hrefused⟩ := hrest symbol rfl
    have hsame : Key.recorder symbol.entry ∈ after.registrations ↔
        Key.recorder symbol.entry ∈ run.registrations := by
      rw [hmem, or_iff_left]
      rintro ⟨other, hother, -, hkey⟩
      exact hdisjoint _ (List.mem_map_of_mem hother) _ List.mem_cons_self
        (congrArg Key.pc hkey).symm
    have hthere : ∀ other ∈ interception.wrapped engine run.registrations symbols,
        Key.recorder other.entry ∈ after.registrations := by
      intro other hother
      obtain ⟨hdealt, hwrap⟩ := List.mem_filter.1 hother
      exact (hmem _).2 (.inr ⟨other, hdealt, by simpa using hwrap, rfl⟩)
    have hwrappedNodup :
        ((interception.wrapped engine run.registrations symbols).map (·.entry)).Nodup :=
      hdealtNodup.sublist (List.filter_sublist.map _)
    obtain ⟨last, failure, ending, hlast, hending, hends⟩ := wrapAll_givenUp m habort hunwraps back
      hwrappedNodup hthere (mt (Engine.wrappable_congr hsame).1 hrefused)
    rw [hlast]
    exact ⟨ending, by rw [hending, hjournal, List.append_assoc], hends⟩

/-! ## What the work tells -/

/-- The log of a load tells the truth.  `listing` is what it enters into the journal while it
enumerates the exports, and `work` what it enters after that. -/
structure TruthfulLog (interception : Interception) (engine : Engine) (m : Module)
    (table : Registrations) (symbols : List ResolvedExport) (answer : Except InterceptError Nat)
    (listing work : Journal) : Prop where
  /-- All that is about exports comes first. -/
  listing_first : (∀ effect ∈ listing, effect.isSurvey) ∧ ∀ effect ∈ work, ¬ effect.isSurvey
  /-- The requests that the engine has granted are those for the symbols that are wrapped. -/
  granted : (listing ++ work).requests.filter (·.isGrantedWrap) =
    (interception.wrapped engine table symbols).map fun symbol =>
      .wrap symbol.entry recorderId symbol.name none
  /-- They are what is noted as wrapped, in the same order. -/
  noted : (listing ++ work).notices.filter (·.isWrapping) =
    (interception.wrapped engine table symbols).map fun symbol =>
      .wrapping m.name symbol.name symbol.entry symbol.resolver
  /-- A load that succeeds ends by telling their number, which it also answers. -/
  loaded : ∀ n, answer = .ok n →
    n = (interception.wrapped engine table symbols).length ∧
    work.back? = some (.notice (.loaded m.name n)) ∧
    (listing ++ work).notices.filter (·.isEnding) = [.loaded m.name n] ∧
    (listing ++ work).requests.filter (·.isUnwrap) = []
  /-- A load that fails ends by telling their number too, after it has unwrapped all of them. -/
  rolledBack : ∀ cause, answer = .error cause →
    work.back? = some (.notice (.rolledBack m.name
      (interception.wrapped engine table symbols).length)) ∧
    (listing ++ work).notices.filter (·.isEnding) =
      [.rolledBack m.name (interception.wrapped engine table symbols).length] ∧
    (listing ++ work).requests.filter (·.isUnwrap) =
      (interception.wrapped engine table symbols).map fun symbol =>
        .unwrap symbol.entry recorderId none
  /-- Each symbol that is passed over is warned of, by the text of its failure. -/
  warned : List.Forall₂
    (fun notice symbol => ∃ cause, engine.WrapRefusal table symbol.entry cause ∧
      notice.text = (InterceptError.wrapFailed m.name symbol.name cause).message)
    ((listing ++ work).notices.filter (·.level = .warn))
    (interception.passedOver engine table symbols)

section Views

variable (engine m run) (dealt : List ResolvedExport)

lemma notices_entriesFor :
    Journal.notices (dealt.flatMap (entriesFor engine m run)).toArray =
      dealt.map fun symbol =>
        .ofAnswer m symbol (engine.wrapRefusal? run (Key.recorder symbol.entry)) := by
  simp [Journal.notices, List.filterMap_flatMap, entriesFor, List.map_eq_flatMap]

lemma requests_entriesFor :
    Journal.requests (dealt.flatMap (entriesFor engine m run)).toArray =
      dealt.map fun symbol =>
        .ofAnswer symbol (engine.wrapRefusal? run (Key.recorder symbol.entry)) := by
  simp [Journal.requests, List.filterMap_flatMap, entriesFor, List.map_eq_flatMap]

variable {engine m run dealt}

section Answers

variable {α : Type} (f : ResolvedExport → Option WrapError → α) {p : α → Bool}

/-- What is made of the granted requests is made of the symbols that can be wrapped. -/
lemma filter_of_granted (hgranted : ∀ symbol, p (f symbol none))
    (hrefused : ∀ symbol cause, p (f symbol (some cause)) = false) :
    (dealt.map fun symbol =>
        f symbol (engine.wrapRefusal? run (Key.recorder symbol.entry))).filter p =
      (dealt.filter fun symbol => engine.Wrappable run.registrations symbol.entry).map
        fun symbol => f symbol none := by
  have hfilter : ∀ symbol,
      p (f symbol (engine.wrapRefusal? run (Key.recorder symbol.entry))) =
        decide (engine.Wrappable run.registrations symbol.entry) := by
    intro symbol
    by_cases hwrap : engine.Wrappable run.registrations symbol.entry
    · rw [Engine.wrapRefusal?_eq_none_iff.2 hwrap, hgranted, decide_eq_true hwrap]
    · obtain ⟨cause, hcause, -⟩ := Engine.exists_wrapRefusal? hwrap
      rw [hcause, hrefused, decide_eq_false hwrap]
  rw [List.filter_map, Function.comp_def, List.filter_congr fun symbol _ => hfilter symbol]
  refine List.map_congr_left fun symbol hsymbol => ?_
  rw [Engine.wrapRefusal?_eq_none_iff.2 (by simpa using (List.mem_filter.1 hsymbol).2)]

lemma filter_eq_nil_of_answers (h : ∀ symbol answer, p (f symbol answer) = false) :
    (dealt.map fun symbol =>
      f symbol (engine.wrapRefusal? run (Key.recorder symbol.entry))).filter p = [] := by
  rw [List.filter_map, List.map_eq_nil_iff, List.filter_eq_nil_iff]
  intro symbol _
  simp [h]

end Answers

/-- The symbols whose requests are refused are warned of. -/
lemma forall₂_warned :
    List.Forall₂
      (fun notice symbol => ∃ cause, engine.WrapRefusal run.registrations symbol.entry cause ∧
        notice.text = (InterceptError.wrapFailed m.name symbol.name cause).message)
      ((dealt.map fun symbol => Notice.ofAnswer m symbol
        (engine.wrapRefusal? run (Key.recorder symbol.entry))).filter (·.level = .warn))
      (dealt.filter fun symbol => ¬ engine.Wrappable run.registrations symbol.entry) := by
  have hfilter : ∀ symbol : ResolvedExport,
      decide ((Notice.ofAnswer m symbol
        (engine.wrapRefusal? run (Key.recorder symbol.entry))).level = .warn) =
      decide ¬ engine.Wrappable run.registrations symbol.entry := by
    intro symbol
    by_cases hwrap : engine.Wrappable run.registrations symbol.entry
    · rw [Engine.wrapRefusal?_eq_none_iff.2 hwrap, decide_eq_false (not_not.2 hwrap)]
      rfl
    · obtain ⟨cause, hcause, -⟩ := Engine.exists_wrapRefusal? hwrap
      rw [hcause, decide_eq_true hwrap]
      rfl
  rw [List.filter_map, Function.comp_def, List.filter_congr fun symbol _ => hfilter symbol,
    List.forall₂_map_left_iff, List.forall₂_same]
  intro symbol hsymbol
  obtain ⟨cause, hcause, hrefusal⟩ :=
    Engine.exists_wrapRefusal? (by simpa using (List.mem_filter.1 hsymbol).2)
  rw [hcause]
  exact ⟨cause, hrefusal, rfl⟩

/-- Nothing of the work is about exports. -/
lemma not_isSurvey_of_mem_entriesFor :
    ∀ effect ∈ dealt.flatMap (entriesFor engine m run), ¬ effect.isSurvey := by
  intro effect heffect
  obtain ⟨symbol, -, hmem⟩ := List.mem_flatMap.1 heffect
  rw [entriesFor, List.mem_pair] at hmem
  rcases hmem with rfl | rfl
  · simp [Effect.isSurvey, Request.ofAnswer]
  · cases engine.wrapRefusal? run (Key.recorder symbol.entry) <;>
      simp [Effect.isSurvey, Notice.ofAnswer, Notice.isAboutExport]

variable {listing : Journal} {ending : List Effect}
  (hlisting : ∀ effect ∈ listing, effect.isSurvey)
include hlisting

lemma filter_notices_work (p : Notice → Bool)
    (hp : ∀ notice : Notice, notice.isAboutExport → p notice = false) :
    (listing ++ (dealt.flatMap (entriesFor engine m run) ++ ending).toArray).notices.filter p =
      (dealt.map fun symbol => Notice.ofAnswer m symbol
        (engine.wrapRefusal? run (Key.recorder symbol.entry))).filter p ++
      (Journal.notices ending.toArray).filter p := by
  rw [Journal.notices_append, List.filter_append, Journal.filter_notices_of_isSurvey hlisting p hp,
    List.nil_append, ← List.append_toArray, Journal.notices_append, List.filter_append,
    notices_entriesFor]

lemma filter_requests_work (p : Request → Bool)
    (hp : ∀ resolver answer, p (.resolve resolver answer) = false) :
    (listing ++ (dealt.flatMap (entriesFor engine m run) ++ ending).toArray).requests.filter p =
      (dealt.map fun symbol => Request.ofAnswer symbol
        (engine.wrapRefusal? run (Key.recorder symbol.entry))).filter p ++
      (Journal.requests ending.toArray).filter p := by
  rw [Journal.requests_append, List.filter_append,
    Journal.filter_requests_of_isSurvey hlisting p hp, List.nil_append, ← List.append_toArray,
    Journal.requests_append, List.filter_append, requests_entriesFor]

/-- Nothing has come to its end while there are symbols to deal with. -/
lemma filter_isEnding_work :
    (listing ++ (dealt.flatMap (entriesFor engine m run) ++ ending).toArray).notices.filter
        (·.isEnding) =
      (Journal.notices ending.toArray).filter (·.isEnding) := by
  rw [filter_notices_work hlisting _ fun _ h => (Notice.not_own_of_isAboutExport h).2.1,
    filter_eq_nil_of_answers (Notice.ofAnswer m), List.nil_append]
  rintro symbol (_ | cause) <;> rfl

/-- Nothing is taken back while there are symbols to deal with. -/
lemma filter_isUnwrap_work :
    (listing ++ (dealt.flatMap (entriesFor engine m run) ++ ending).toArray).requests.filter
        (·.isUnwrap) =
      (Journal.requests ending.toArray).filter (·.isUnwrap) := by
  rw [filter_requests_work hlisting _ fun _ _ => rfl,
    filter_eq_nil_of_answers Request.ofAnswer fun _ _ => rfl, List.nil_append]

end Views

section GivenUp

variable (m) (wrapped : List ResolvedExport) (symbol : ResolvedExport) (cause : WrapError)

lemma requests_entriesGivenUp :
    Journal.requests (entriesGivenUp m wrapped symbol cause).toArray =
      .wrap symbol.entry recorderId symbol.name (some cause) ::
        wrapped.map fun other => .unwrap other.entry recorderId none := by
  simp [entriesGivenUp, Journal.requests, List.filterMap_map, List.filterMap_eq_map']

lemma notices_entriesGivenUp :
    Journal.notices (entriesGivenUp m wrapped symbol cause).toArray =
      [.rolledBack m.name wrapped.length] := by
  simp [entriesGivenUp, Journal.notices, List.filterMap_map]

lemma not_isSurvey_of_mem_entriesGivenUp :
    ∀ effect ∈ entriesGivenUp m wrapped symbol cause, ¬ effect.isSurvey := by
  intro effect heffect
  simp only [entriesGivenUp, List.cons_append, List.mem_cons, List.mem_append, List.mem_map,
    List.not_mem_nil, or_false] at heffect
  rcases heffect with rfl | ⟨other, -, rfl⟩ | rfl
  · simp [Effect.isSurvey]
  · simp [Effect.isSurvey]
  · simp [Effect.isSurvey, Notice.isAboutExport]

end GivenUp

/-- The log of a load is true if the work is for what the load deals with and ends by its answer. -/
lemma truthfulLog_of_ends {answer : Except InterceptError Nat} {listing : Journal}
    {ending : List Effect} (hlisting : ∀ effect ∈ listing, effect.isSurvey)
    (hends : Ends m (interception.wrapped engine run.registrations symbols) answer ending) :
    interception.TruthfulLog engine m run.registrations symbols answer listing
      ((interception.dealtWith engine run.registrations symbols).flatMap
        (entriesFor engine m run) ++ ending).toArray where
  listing_first := by
    refine ⟨hlisting, fun effect heffect => ?_⟩
    rw [List.mem_toArray, List.mem_append] at heffect
    rcases heffect with hentry | hending
    · exact not_isSurvey_of_mem_entriesFor effect hentry
    · cases hends with
      | loaded => simp_all [Effect.isSurvey, Notice.isAboutExport]
      | givenUp symbol cause => exact not_isSurvey_of_mem_entriesGivenUp m _ _ _ effect hending
  granted := by
    have hnone : (Journal.requests ending.toArray).filter (·.isGrantedWrap) = [] := by
      cases hends with
      | loaded => rfl
      | givenUp symbol cause =>
        rw [requests_entriesGivenUp, List.filter_cons_of_neg (by simp [Request.isGrantedWrap]),
          List.filter_map, List.map_eq_nil_iff, List.filter_eq_nil_iff]
        exact fun _ _ => Bool.false_ne_true
    rw [filter_requests_work hlisting _ fun _ _ => rfl, hnone, List.append_nil, wrapped]
    exact filter_of_granted Request.ofAnswer (fun _ => rfl) fun _ _ => rfl
  noted := by
    have hnone : (Journal.notices ending.toArray).filter (·.isWrapping) = [] := by
      cases hends with
      | loaded => rfl
      | givenUp symbol cause =>
        rw [notices_entriesGivenUp]
        rfl
    rw [filter_notices_work hlisting _ fun _ h => (Notice.not_own_of_isAboutExport h).1, hnone,
      List.append_nil, wrapped]
    exact filter_of_granted (Notice.ofAnswer m) (fun _ => rfl) fun _ _ => rfl
  loaded := by
    rintro n rfl
    cases hends
    refine ⟨rfl, by simp, ?_, ?_⟩
    · rw [filter_isEnding_work hlisting]
      rfl
    · rw [filter_isUnwrap_work hlisting]
      rfl
  rolledBack := by
    rintro failure rfl
    cases hends with
    | givenUp symbol cause =>
      refine ⟨?_, ?_, ?_⟩
      · rw [List.back?_toArray, entriesGivenUp, ← List.append_assoc, List.getLast?_concat]
      · rw [filter_isEnding_work hlisting, notices_entriesGivenUp]
        rfl
      · rw [filter_isUnwrap_work hlisting, requests_entriesGivenUp,
          List.filter_cons_of_neg (by simp [Request.isUnwrap]), List.filter_eq_self]
        intro request hrequest
        obtain ⟨other, -, rfl⟩ := List.mem_map.1 hrequest
        rfl
  warned := by
    have hnone : (Journal.notices ending.toArray).filter (·.level = .warn) = [] := by
      cases hends with
      | loaded => rfl
      | givenUp symbol cause =>
        rw [notices_entriesGivenUp]
        rfl
    rw [filter_notices_work hlisting _ fun _ h =>
      decide_eq_false (Notice.not_own_of_isAboutExport h).2.2, hnone, List.append_nil]
    exact forall₂_warned

end Interception

/-- **The log of a load tells the truth.**  Let the engine take back what it has granted.  A load of
a library first enumerates the exports, with the notices that belong to that, and then works on
them, and its log tells the truth about this work, whether it succeeds or fails, and whatever the
table holds, the resolvers answer and the engine refuses. -/
theorem load_log_truthful (engine : Engine) (interception : Interception) (m : Module)
    {run after : Run} {symbols : List ResolvedExport} {answer : Except InterceptError Nat}
    (hunwraps : ∀ pc, engine.refusesUnwrap pc = none)
    (hmain : ¬ interception.isMainExecutable m)
    (hsymbols : (engine.enumerate m run).1 = symbols)
    (hload : interception.onLoad engine m run = (answer, after)) :
    (∀ symbol ∈ symbols, ∃ exported ∈ engine.tableOf m, symbol.name = exported.name ∧
      symbol.resolver = if exported.kind = .indirect then some exported.addr else none) ∧
    ∃ listing work : Journal,
      (engine.enumerate m run).2.journal = run.journal ++ listing ∧
      after.journal = run.journal ++ (listing ++ work) ∧
      interception.TruthfulLog engine m run.registrations symbols answer listing work := by
  have hnodup : (symbols.map (·.entry)).Nodup := hsymbols ▸ engine.enumerate_entries_nodup m run
  have htable : (engine.enumerate m run).2.registrations = run.registrations :=
    Engine.enumerate_registrations m run
  have hlists : engine.Lists run.resolverCalls (engine.tableOf m) symbols :=
    hsymbols ▸ engine.lists_enumerate m run
  obtain ⟨listing, henumerated, hlisting⟩ := engine.enumerate_surveys m run
  rw [Interception.onLoad_of_not_main hmain, hsymbols] at hload
  generalize (engine.enumerate m run).2 = enumerated at hload htable henumerated
  obtain rfl := congrArg Prod.fst hload
  obtain rfl := congrArg Prod.snd hload
  constructor
  · intro symbol hsymbol
    obtain ⟨places, -, hstands⟩ := hlists.ordered
    obtain ⟨place, -, hstandsFor⟩ := exists_partner_of_mem hstands hsymbol
    obtain ⟨exported, hexported, hnamed⟩ := hstandsFor.named
    exact ⟨exported, List.mem_of_getElem? hexported, hnamed⟩
  · obtain ⟨ending, hjournal, hends⟩ :=
      Interception.exists_work interception engine m enumerated hunwraps hnodup
    rw [← htable]
    refine ⟨listing, _, henumerated, ?_, Interception.truthfulLog_of_ends hlisting hends⟩
    rw [← Array.append_assoc, ← henumerated]
    exact Array.toList_inj.1 (by rw [hjournal, Array.toList_append, List.toList_toArray])

/-! ## A load with some of everything -/

namespace Patchy

def libc : Module := ⟨0x2000, 0x3000, some "libc.so", none, 0⟩

/-- Exports that can be wrapped, directly and through a resolver, one that is wrapped already, an
alias, a resolver that faults, and an address that the engine rejects. -/
def scenario : Scenario where
  modules := [(libc, [⟨"open", 0x2100, .code⟩, ⟨"open64", 0x2100, .code⟩,
    ⟨"memcpy", 0x2400, .indirect⟩, ⟨"close", 0x2200, .code⟩, ⟨"strlen", 0x2500, .indirect⟩,
    ⟨"brk", 0x2300, .code⟩, ⟨"read", 0x2700, .code⟩])]
  main := none
  resolvers := [(0x2400, [.ok 0x2600]), (0x2500, [.error (.notExecutable 0x2500)])]
  wrapRefusals := [(0x2300, "reserved")]
  unwrapRefusals := []
  greeting := []

def session (checks : ConsistencyChecks) : Interception := ⟨⟨false, none⟩, checks⟩

def table : Registrations :=
  (∅ : Registrations).insert (Key.recorder 0x2200) ⟨.recorder ⟨false, none⟩, "close"⟩

def initial : Run := { Run.start with registrations := table }

/-- The symbols in the order of the export table. -/
def symbols : List ResolvedExport :=
  [⟨"open", 0x2100, none⟩, ⟨"memcpy", 0x2600, some 0x2400⟩, ⟨"close", 0x2200, none⟩,
    ⟨"brk", 0x2300, none⟩, ⟨"read", 0x2700, none⟩]

end Patchy

open Patchy in
/-- With `ignore` three symbols are noted as wrapped, with `abort` only those in front of `close`,
and these are taken back. -/
theorem logs_of_patchy_library :
    ((session .ignore).onLoad scenario.engine libc initial).2.journal.notices.filter
        (·.isWrapping) =
      [.wrapping "libc.so" "open" 0x2100 none, .wrapping "libc.so" "memcpy" 0x2600 (some 0x2400),
        .wrapping "libc.so" "read" 0x2700 none] ∧
    ((session .abort).onLoad scenario.engine libc initial).2.journal.notices.filter
        (·.isWrapping) =
      [.wrapping "libc.so" "open" 0x2100 none,
        .wrapping "libc.so" "memcpy" 0x2600 (some 0x2400)] ∧
    ((session .abort).onLoad scenario.engine libc initial).2.journal.notices.filter (·.isEnding) =
      [.rolledBack "libc.so" 2] := by
  have hsymbols : (scenario.engine.enumerate libc initial).1 = symbols := by decide
  have hstart : initial.journal = #[] := rfl
  have hwrapped : (session .ignore).wrapped scenario.engine table symbols =
      [⟨"open", 0x2100, none⟩, ⟨"memcpy", 0x2600, some 0x2400⟩, ⟨"read", 0x2700, none⟩] := by
    decide +kernel
  have hwrapped' : (session .abort).wrapped scenario.engine table symbols =
      [⟨"open", 0x2100, none⟩, ⟨"memcpy", 0x2600, some 0x2400⟩] := by
    decide +kernel
  have hanswer : ((session .abort).onLoad scenario.engine libc initial).1 =
      .error (.wrapFailed "libc.so" "close" (.alreadyWrapped 0x2200)) := by
    rfl
  obtain ⟨-, listing, work, -, hjournal, hlog⟩ := load_log_truthful scenario.engine
    (session .ignore) libc (fun _ => rfl) (by decide) hsymbols Prod.mk.eta.symm
  obtain ⟨-, listing', work', -, hjournal', hlog'⟩ := load_log_truthful scenario.engine
    (session .abort) libc (fun _ => rfl) (by decide) hsymbols Prod.mk.eta.symm
  refine ⟨?_, ?_, ?_⟩
  · rw [hjournal, hstart, Array.empty_append]
    exact hlog.noted.trans (congrArg _ hwrapped)
  · rw [hjournal', hstart, Array.empty_append]
    exact hlog'.noted.trans (congrArg _ hwrapped')
  · rw [hjournal', hstart, Array.empty_append, (hlog'.rolledBack _ hanswer).2.1]
    exact congrArg (fun wrapped : List ResolvedExport =>
      [Notice.rolledBack "libc.so" wrapped.length]) hwrapped'

end CallTrace
