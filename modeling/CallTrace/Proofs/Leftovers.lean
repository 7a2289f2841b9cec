import CallTrace.Proofs.Loading

/-!
# Registrations left over

A load and an unload each enumerate the exports of their module, and each calls the resolvers of all
indirect exports for itself.  A resolver that answers otherwise the second time makes them disagree:
the unload comes to the addresses of the second answers, and a registration at an address of the
first answers alone is left over, although both have succeeded (`not_unloadsLeaveNothing`).

With the resolvers taken as they are, what is left over is said exactly (`left_over_iff`).
-/

namespace CallTrace

variable {interception : Interception} {engine : Engine} {m : Module} {run : Run} {key : Key}

/-! ## What the load installs -/

lemma not_isMainExecutable_of_installed (hbefore : key ∉ run.registrations)
    (hinstalled : key ∈ (interception.onLoad engine m run).2.registrations) :
    ¬ interception.isMainExecutable m := by
  intro hmain
  rw [Interception.onLoad, if_pos hmain] at hinstalled
  exact hbefore hinstalled

/-- A load installs recorders at addresses that its exports resolve to. -/
lemma mem_answers_of_installed (hbefore : key ∉ run.registrations)
    (hinstalled : key ∈ (interception.onLoad engine m run).2.registrations) :
    key.hook = recorderId ∧ key.pc ∈ engine.answers run.resolverCalls (engine.tableOf m) := by
  have hmain := not_isMainExecutable_of_installed hbefore hinstalled
  by_contra hnot
  have helsewhere : key.hook ≠ recorderId ∨
      key.pc ∉ [] ++ (engine.enumerate m run).1.map (·.entry) := by
    rw [List.nil_append, engine.mem_map_enumerate]
    exact not_and_or.1 hnot
  simp only [Interception.onLoad, if_neg hmain] at hinstalled
  rw [Registrations.mem_iff_exists, Interception.wrapAll_getElem?_of_not_mem helsewhere,
    Engine.enumerate_registrations, ← Registrations.mem_iff_exists] at hinstalled
  exact hbefore hinstalled

lemma onLoad_resolverCalls (hmain : ¬ interception.isMainExecutable m) :
    (interception.onLoad engine m run).2.resolverCalls =
      ((engine.tableOf m).filterMap Engine.resolverOf).reverse ++ run.resolverCalls := by
  simp only [Interception.onLoad, if_neg hmain]
  rw [Interception.wrapAll_resolverCalls, engine.enumerate_resolverCalls]

/-! ## What the unload leaves -/

/-- An unload that succeeds leaves a recorder in place if no export of its module resolves to the
address, or if the engine refuses the request and that is ignored. -/
lemma mem_onUnload_of_ok {n : Nat} (hok : (interception.onUnload engine m run).1 = .ok n)
    (hmain : ¬ interception.isMainExecutable m) (hhook : key.hook = recorderId)
    (hmem : key ∈ run.registrations) :
    key ∈ (interception.onUnload engine m run).2.registrations ↔
      key.pc ∉ engine.answers run.resolverCalls (engine.tableOf m) ∨
        interception.checks = .ignore ∧ engine.refusesUnwrap key.pc ≠ none := by
  have hrecorder : Key.recorder key.pc ∈ run.registrations := by
    rwa [Key.recorder_pc hhook]
  have hkept : key ∈ (interception.onUnload engine m run).2.registrations ↔
      key.pc ∉ (interception.clearedBy engine m run).map (·.entry) := by
    obtain ⟨registration, hregistration⟩ := (Registrations.mem_iff_exists _ _).1 hmem
    rw [Registrations.mem_iff_exists, Interception.onUnload_getElem?, hregistration]
    simp [hhook]
  rw [hkept, Interception.mem_clearedBy_of_ok hok, and_iff_right hmain, engine.mem_map_enumerate,
    not_and_or]
  constructor
  · rintro (hanswers | hunwrap)
    · exact .inl hanswers
    · rw [or_iff_not_imp_left, not_not]
      intro hanswers
      have hrefuses : engine.refusesUnwrap key.pc ≠ none := by
        intro hnone
        exact hunwrap ⟨hnone, hrecorder⟩
      refine ⟨?_, hrefuses⟩
      -- An unload under `abort` that succeeds has met no refusal, so only `ignore` is left.
      obtain ⟨hcomplete, -⟩ := Interception.onUnload_fst_eq_ok_iff.1 hok
      rcases hcomplete.resolve_left hmain with hignore | hall
      · exact hignore
      · rw [← engine.mem_map_enumerate, List.mem_map] at hanswers
        obtain ⟨symbol, hsymbol, hentry⟩ := hanswers
        exact absurd (hentry ▸ hall symbol hsymbol) hunwrap
  · rintro (hanswers | ⟨-, hrefuses⟩)
    · exact .inl hanswers
    · exact .inr fun hunwrap => hrefuses hunwrap.1

/-- **Registrations that an unload leaves over.**  Let a load succeed and the unload of the same
module right after it.  What the load has installed is at an address that the exports of the module
resolve to, going by the answers of the resolvers to the load.  It is left over if and only if no
export resolves there by their next answers, or the engine refuses to unwrap it and that is
ignored. -/
theorem left_over_iff (engine : Engine) (interception : Interception) (m : Module) (run : Run)
    (key : Key) {loaded unloaded : Run} {installed removed : Nat}
    (hload : interception.onLoad engine m run = (.ok installed, loaded))
    (hunload : interception.onUnload engine m loaded = (.ok removed, unloaded))
    (hbefore : key ∉ run.registrations) (hinstalled : key ∈ loaded.registrations) :
    key.hook = recorderId ∧ key.pc ∈ engine.answers run.resolverCalls (engine.tableOf m) ∧
      (key ∈ unloaded.registrations ↔
        key.pc ∉ engine.answers
            (((engine.tableOf m).filterMap Engine.resolverOf).reverse ++ run.resolverCalls)
            (engine.tableOf m) ∨
          interception.checks = .ignore ∧ engine.refusesUnwrap key.pc ≠ none) := by
  obtain rfl : (interception.onLoad engine m run).2 = loaded := congrArg Prod.snd hload
  obtain rfl : (interception.onUnload engine m _).2 = unloaded := congrArg Prod.snd hunload
  have hmain := not_isMainExecutable_of_installed hbefore hinstalled
  obtain ⟨hhook, hanswers⟩ := mem_answers_of_installed hbefore hinstalled
  refine ⟨hhook, hanswers, ?_⟩
  rw [← onLoad_resolverCalls hmain]
  exact mem_onUnload_of_ok (congrArg Prod.fst hunload) hmain hhook hinstalled

/-! ## A resolver that changes its mind -/

namespace FickleResolver

def liba : Module := ⟨0x2000, 0x3000, some "liba.so", none, 0⟩

/-- The first resolver answers once and then faults; the second answers alike each time. -/
def scenario : Scenario where
  modules := [(liba, [⟨"fast_copy", 0x2100, .indirect⟩, ⟨"fast_move", 0x2200, .indirect⟩])]
  main := none
  resolvers := [(0x2100, [.ok 0x2500, .error (.accessViolation 0x2100)]),
    (0x2200, [.ok 0x2600])]
  wrapRefusals := []
  unwrapRefusals := []
  greeting := []

def session : Interception := ⟨⟨false, none⟩, .abort⟩

def loaded : Run := (session.onLoad scenario.engine liba .start).2

def unloaded : Run := (session.onUnload scenario.engine liba loaded).2

lemma onLoad_eq : session.onLoad scenario.engine liba .start = (.ok 2, loaded) := by
  have hok : (session.onLoad scenario.engine liba .start).1 = .ok 2 := by decide +kernel
  exact Prod.ext hok rfl

lemma onUnload_eq : session.onUnload scenario.engine liba loaded = (.ok 1, unloaded) := by
  have hok : (session.onUnload scenario.engine liba loaded).1 = .ok 1 := by decide +kernel
  exact Prod.ext hok rfl

end FickleResolver

open FickleResolver in
/-- Of two registrations one is left over when the other resolver alone answers again, and no
refusal tells of it. -/
theorem fast_copy_left_over :
    Key.recorder 0x2500 ∈ unloaded.registrations ∧
      Key.recorder 0x2600 ∉ unloaded.registrations := by
  constructor
  · refine (left_over_iff scenario.engine session liba .start _ onLoad_eq onUnload_eq
      (by simp [Run.start]) (by decide +kernel)).2.2.2 (.inl ?_)
    decide +kernel
  · intro hleft
    rcases (left_over_iff scenario.engine session liba .start _ onLoad_eq onUnload_eq
      (by simp [Run.start]) (by decide +kernel)).2.2.1 hleft with hanswers | ⟨hignore, -⟩
    · exact hanswers (by decide +kernel)
    · exact absurd hignore (by decide)

/-- A load and an unload of a module that both succeed leave nothing of what the load has
installed. -/
def UnloadsLeaveNothing : Prop :=
  ∀ (engine : Engine) (interception : Interception) (m : Module) (run loaded unloaded : Run)
    (installed removed : Nat) (key : Key),
    interception.onLoad engine m run = (.ok installed, loaded) →
      interception.onUnload engine m loaded = (.ok removed, unloaded) →
        key ∉ run.registrations → key ∈ loaded.registrations → key ∉ unloaded.registrations

open FickleResolver in
/-- It takes only a resolver that faults the second time. -/
theorem not_unloadsLeaveNothing : ¬ UnloadsLeaveNothing := by
  intro hnothing
  have hgone := hnothing scenario.engine session liba .start loaded unloaded 2 1
    (Key.recorder 0x2500) onLoad_eq onUnload_eq (by simp [Run.start]) (by decide +kernel)
  have hleft : Key.recorder 0x2500 ∈ unloaded.registrations := by decide +kernel
  exact hgone hleft

end CallTrace
