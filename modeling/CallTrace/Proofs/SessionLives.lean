import Mathlib.Data.List.Nodup
import Mathlib.Data.List.Perm.Subperm
import CallTrace.Proofs.Confinement
import CallTrace.Snapshot

/-!
# The lives of sessions

A subscription lives in two places: a session holds it, and the engine has an observer under it.  It
ends in two ways, by the report of an exit and when the session is dropped, in either order and
repeatedly, and perhaps after another session has been attached.  An `Owner` is whoever attaches
sessions to a snapshot, keeps them, drops them, and lets the snapshot report what happens.

What carries everything is `Run.Settled`: the observers are those under the subscriptions that are
held, and the subscriptions that were handed out are those held and those given back, each of them
once.  Giving a subscription back keeps this, because it is given back only while it is held; work
on registrations does not touch it.  So it does not matter who gives back first, and
`lives_of_sessions` follows for every sequence of steps.
-/

namespace CallTrace

/-- The subscriptions given back to the engine, each with the answer whether it was known. -/
def Journal.unsubscriptions (journal : Journal) : List (SubscriptionId × Bool) :=
  journal.toList.filterMap fun
    | .request (.unsubscribe id known) => some (id, known)
    | _ => none

namespace Run

/-! ## Subscriptions that are settled -/

/-- Every subscription that was handed out is either held, and has its observer, or it was given
back once. -/
structure Settled (run : Run) : Prop where
  observed : run.observers.map (·.1) = run.held
  sessions : ∀ subscriber ∈ run.observers, ∃ interception policy,
    subscriber.2 = .session interception policy
  returned : (run.journal.unsubscriptions ++ run.held.map (·, true)).Perm
    ((List.range run.nextSubscription).map (·, true))

lemma Settled.nodup_held {run : Run} (h : run.Settled) : run.held.Nodup := by
  have hnodup : (run.journal.unsubscriptions ++ run.held.map (·, true)).Nodup :=
    h.returned.nodup_iff.2 (List.nodup_range.map fun _ _ heq => congrArg Prod.fst heq)
  exact hnodup.of_append_right.of_map

/-! ## What reports do to subscriptions -/

/-- From `before` to `after` nothing happens to subscriptions but that some are given back. -/
structure OnlyGivesBack (before after : Run) : Prop where
  nextSubscription : after.nextSubscription = before.nextSubscription
  held : after.held.Sublist before.held
  observers : after.observers.Sublist before.observers
  settled : before.Settled → after.Settled

namespace OnlyGivesBack

variable {first second third : Run}

lemma refl (run : Run) : OnlyGivesBack run run := ⟨rfl, .refl _, .refl _, id⟩

lemma trans (h : OnlyGivesBack first second) (h' : OnlyGivesBack second third) :
    OnlyGivesBack first third :=
  ⟨h'.nextSubscription.trans h.nextSubscription, h'.held.trans h.held,
    h'.observers.trans h.observers, h'.settled ∘ h.settled⟩

lemma of_eq (hnext : second.nextSubscription = first.nextSubscription)
    (hheld : second.held = first.held) (hobservers : second.observers = first.observers)
    (hjournal : second.journal.unsubscriptions = first.journal.unsubscriptions) :
    OnlyGivesBack first second := by
  refine ⟨hnext, hheld ▸ .refl _, hobservers ▸ .refl _, fun settled => ⟨?_, ?_, ?_⟩⟩
  · rw [hobservers, hheld, settled.observed]
  · rw [hobservers]
    exact settled.sessions
  · rw [hjournal, hheld, hnext]
    exact settled.returned

end OnlyGivesBack

lemma unsubscriptions_enter (run : Run) {effect : Effect}
    (h : ∀ id known, effect ≠ .request (.unsubscribe id known)) :
    (run.enter effect).journal.unsubscriptions = run.journal.unsubscriptions := by
  cases effect with
  | request request =>
    cases request with
    | unsubscribe id known => exact absurd rfl (h id known)
    | _ => simp [enter, Journal.unsubscriptions]
  | _ => simp [enter, Journal.unsubscriptions]

lemma unsubscriptions_note (run : Run) (notice : Notice) :
    (run.note notice).journal.unsubscriptions = run.journal.unsubscriptions :=
  run.unsubscriptions_enter fun _ _ => Effect.noConfusion

lemma enter_onlyGivesBack (run : Run) {effect : Effect}
    (h : ∀ id known, effect ≠ .request (.unsubscribe id known)) :
    OnlyGivesBack run (run.enter effect) :=
  .of_eq rfl rfl rfl (run.unsubscriptions_enter h)

lemma note_onlyGivesBack (run : Run) (notice : Notice) : OnlyGivesBack run (run.note notice) :=
  run.enter_onlyGivesBack fun _ _ => Effect.noConfusion

lemma Confined.onlyGivesBack {before after : Run} (h : Confined before after) :
    OnlyGivesBack before after := by
  refine .of_eq h.nextSubscription h.held h.observers (h.filterMap_eq _ fun effect hwork => ?_)
  split
  · exact absurd hwork (by simp [Effect.isWork])
  · rfl

lemma settle_onlyGivesBack (policy : FailurePolicy) (id : SubscriptionId)
    {outcome : Except InterceptError Nat × Run} {run : Run} (h : Confined run outcome.2) :
    OnlyGivesBack run (settle policy id outcome) := by
  obtain ⟨answer, after⟩ := outcome
  refine h.onlyGivesBack.trans ?_
  cases answer with
  | ok n => exact .refl after
  | error cause =>
    cases policy with
    | report => exact after.enter_onlyGivesBack fun _ _ => Effect.noConfusion
    | abort =>
      exact (after.note_onlyGivesBack _).trans
        (enter_onlyGivesBack _ fun _ _ => Effect.noConfusion)

lemma held_release (id : SubscriptionId) (run : Run) :
    (run.release id).held = run.held.filter (· ≠ id) := by
  unfold release
  split
  · rfl
  · rename_i hid
    refine (List.filter_eq_self.2 fun other hother => ?_).symm
    exact decide_eq_true (ne_of_mem_of_not_mem hother hid)

/-- A subscription that is held is given back once, and its observer goes with it. -/
lemma Settled.release {run : Run} (h : run.Settled) (id : SubscriptionId) :
    (run.release id).Settled := by
  by_cases hid : id ∈ run.held
  · -- What is held has its observer, so that the engine knows the subscription.
    have hknown : run.observers.any (·.1 = id) = true := by
      rw [← h.observed] at hid
      obtain ⟨observer, hmem, rfl⟩ := List.mem_map.1 hid
      exact List.any_eq_true.2 ⟨observer, hmem, by simp⟩
    have hreturned : (run.release id).journal.unsubscriptions =
        run.journal.unsubscriptions ++ [(id, true)] := by
      simp [Run.release, hid, unsubscribe, enter, Journal.unsubscriptions, hknown]
    have herase : run.held.erase id = run.held.filter (· ≠ id) := by
      rw [h.nodup_held.erase_eq_filter]
      exact List.filter_congr fun other _ => by rw [bne, beq_eq_decide, decide_not]
    have hsplit : run.held.Perm (id :: run.held.filter (· ≠ id)) :=
      herase ▸ List.perm_cons_erase hid
    have hobservers : (run.release id).observers = run.observers.filter (·.1 ≠ id) := by
      rw [Run.release, if_pos hid]
      rfl
    constructor
    case observed =>
      rw [held_release, hobservers, ← h.observed, List.filter_map]
      rfl
    case sessions =>
      intro subscriber hsubscriber
      rw [hobservers] at hsubscriber
      exact h.sessions subscriber (List.mem_filter.1 hsubscriber).1
    case returned =>
      rw [held_release, hreturned, List.append_assoc, Run.release, if_pos hid]
      exact ((hsplit.map (·, true)).symm.append_left _).trans h.returned
  · rwa [Run.release, if_neg hid]

lemma release_onlyGivesBack (id : SubscriptionId) (run : Run) :
    OnlyGivesBack run (run.release id) where
  nextSubscription := by
    unfold release
    split <;> rfl
  held := held_release id run ▸ List.filter_sublist
  observers := by
    unfold release
    split
    · exact List.filter_sublist
    · exact .refl _
  settled h := h.release id

/-- Whatever is reported and whoever receives it, subscriptions are only given back. -/
lemma receive_onlyGivesBack (engine : Engine) (id : SubscriptionId) (event : Lifecycle)
    (observer : Observer) (run : Run) :
    OnlyGivesBack run (observer.receive engine id event run) := by
  cases observer with
  | watcher => exact run.enter_onlyGivesBack fun _ _ => Effect.noConfusion
  | session interception policy =>
    cases event with
    | loaded m already =>
      exact settle_onlyGivesBack policy id (interception.onLoad_confined engine m run)
    | unloaded m =>
      exact settle_onlyGivesBack policy id (interception.onUnload_confined engine m run)
    | forked => exact run.note_onlyGivesBack .forked
    | exiting => exact (run.note_onlyGivesBack .exiting).trans (release_onlyGivesBack id _)

lemma registrations_release (id : SubscriptionId) (run : Run) :
    (run.release id).registrations = run.registrations := by
  unfold release
  split <;> rfl

/-- Reports that are not about a module leave the registrations alone. -/
lemma registrations_receive (engine : Engine) (id : SubscriptionId) {event : Lifecycle}
    (h : event = .forked ∨ event = .exiting) (observer : Observer) (run : Run) :
    (observer.receive engine id event run).registrations = run.registrations := by
  cases observer with
  | watcher => rfl
  | session interception policy =>
    rcases h with rfl | rfl
    · rfl
    · exact registrations_release id _

lemma deliver_onlyGivesBack (engine : Engine) (events : List Lifecycle) (run : Run) :
    OnlyGivesBack run (run.deliver engine events) :=
  deliver_of_receive (OnlyGivesBack run)
    (fun subscriber _ event _ after hafter =>
      hafter.trans (receive_onlyGivesBack engine subscriber.1 event subscriber.2 after)) (.refl run)

lemma registrations_deliver (engine : Engine) {event : Lifecycle}
    (h : event = .forked ∨ event = .exiting) (run : Run) :
    (run.deliver engine [event]).registrations = run.registrations := by
  refine deliver_of_receive (·.registrations = run.registrations) ?_ rfl
  intro subscriber _ reported hreported after hafter
  obtain rfl := List.mem_singleton.1 hreported
  exact (registrations_receive engine subscriber.1 h subscriber.2 after).trans hafter

/-- Sessions to whom an exit is reported hold nothing afterwards. -/
lemma held_foldl_exiting (engine : Engine) {subscribers : List (SubscriptionId × Observer)}
    (h : ∀ subscriber ∈ subscribers, ∃ interception policy,
      subscriber.2 = .session interception policy) (run : Run) :
    (subscribers.foldl (receiveAll engine [.exiting]) run).held =
      run.held.filter (· ∉ subscribers.map (·.1)) := by
  induction subscribers generalizing run with
  | nil => simp
  | cons subscriber subscribers ih =>
    obtain ⟨id, observer⟩ := subscriber
    obtain ⟨⟨interception, policy, rfl⟩, hrest⟩ := List.forall_mem_cons.1 h
    have hreceive : (run.receiveAll engine [.exiting] (id, .session interception policy)).held =
        run.held.filter (· ≠ id) := held_release id (run.note .exiting)
    rw [List.foldl_cons, ih hrest, hreceive, List.filter_filter]
    refine List.filter_congr fun other _ => ?_
    rw [← Bool.decide_and]
    refine decide_eq_decide.2 ?_
    rw [List.map_cons, List.mem_cons, not_or]
    exact and_comm

lemma Settled.held_deliver_exiting {run : Run} (h : run.Settled) (engine : Engine) :
    (run.deliver engine [.exiting]).held = [] := by
  rw [deliver, held_foldl_exiting engine h.sessions, h.observed, List.filter_eq_nil_iff]
  simp

/-- Without observers nothing comes of a report. -/
lemma deliver_of_no_observers (engine : Engine) (events : List Lifecycle) {run : Run}
    (h : run.observers = []) : run.deliver engine events = run := by
  rw [deliver, h, List.foldl_nil]

end Run

/-- A session that is attached to a snapshot holds a new subscription and observes. -/
lemma Run.Settled.attach {run : Run} (h : run.Settled) (snapshot : Snapshot) (options : Options)
    (checks : ConsistencyChecks) (policy : FailurePolicy) :
    (Session.attach snapshot.engine options checks policy run).2.Settled := by
  let attached := (Session.attach snapshot.engine options checks policy run).2
  let id := run.nextSubscription
  constructor
  case observed =>
    have hobservers : attached.observers.map (·.1) = run.observers.map (·.1) ++ [id] :=
      List.map_append
    rw [hobservers, h.observed]
    rfl
  case sessions =>
    exact List.forall_mem_append.2 ⟨h.sessions, List.forall_mem_singleton.2 ⟨_, _, rfl⟩⟩
  case returned =>
    have hjournal : attached.journal.unsubscriptions = run.journal.unsubscriptions :=
      (Run.unsubscriptions_note _ _).trans (run.unsubscriptions_note _)
    have hheld : attached.held.map (·, true) = run.held.map (·, true) ++ [(id, true)] :=
      List.map_append
    have hhanded : (List.range attached.nextSubscription).map (·, true) =
        (List.range id).map (·, true) ++ [(id, true)] := by
      rw [show attached.nextSubscription = id + 1 from rfl, List.range_succ, List.map_append,
        List.map_singleton]
    rw [hjournal, hheld, hhanded, ← List.append_assoc]
    exact h.returned.append_right _

namespace Session

/-- A session that is not attached any more leaves all observers where they are. -/
lemma observers_detach (session : Session) (run : Run) :
    (session.detach run).observers =
      if session.isAttached run then run.observers.filter (·.1 ≠ session.subscription)
      else run.observers := by
  change (run.release session.subscription).observers = _
  unfold Run.release isAttached
  by_cases hheld : session.subscription ∈ run.held
  · rw [if_pos hheld, if_pos (decide_eq_true hheld)]
    rfl
  · rw [if_neg hheld, if_neg (by simpa using hheld)]

lemma registrations_detach (session : Session) (run : Run) :
    (session.detach run).registrations = run.registrations :=
  Run.registrations_release session.subscription run

end Session

/-! ## Owners of sessions -/

/-- Whoever attaches sessions to a snapshot. -/
structure Owner where
  run : Run
  /-- All sessions that were ever attached, in this order. -/
  attached : List Session
  /-- The sessions that have not been dropped. -/
  kept : List Session

namespace Owner

/-- What an owner of sessions does, or lets the snapshot report. -/
inductive Step where
  /-- Attaches a session whose failures are reported. -/
  | attach (options : Options) (checks : ConsistencyChecks)
  | replayLoads
  | replayUnloads
  | fork
  | exit
  /-- Detaches or drops a session, if it is kept. -/
  | drop (session : Session)

def attach (snapshot : Snapshot) (options : Options) (checks : ConsistencyChecks) (owner : Owner) :
    Owner :=
  let (session, run) := Session.attach snapshot.engine options checks .report owner.run
  ⟨run, owner.attached ++ [session], owner.kept ++ [session]⟩

def drop (session : Session) (owner : Owner) : Owner :=
  if session ∈ owner.kept then
    { owner with run := session.detach owner.run, kept := owner.kept.filter (· ≠ session) }
  else owner

/-- One step. -/
def perform (snapshot : Snapshot) (owner : Owner) : Step → Owner
  | .attach options checks => owner.attach snapshot options checks
  | .replayLoads => { owner with run := snapshot.replayLoads owner.run }
  | .replayUnloads => { owner with run := snapshot.replayUnloads owner.run }
  | .fork => { owner with run := owner.run.deliver snapshot.engine [.forked] }
  | .exit => { owner with run := snapshot.notifyExit owner.run }
  | .drop session => owner.drop session

/-- An owner after some steps; in the beginning there is a table of registrations and nothing
else. -/
def after (snapshot : Snapshot) (table : Registrations) (steps : List Step) : Owner :=
  steps.foldl (perform snapshot) ⟨{ Run.start with registrations := table }, [], []⟩

/-- Subscriptions are settled, sessions are numbered by them as they are attached, and what is held
is held by sessions that are kept. -/
structure Orderly (owner : Owner) : Prop where
  settled : owner.run.Settled
  numbered : owner.attached.map (·.subscription) = List.range owner.run.nextSubscription
  kept : owner.kept.Sublist owner.attached
  held : owner.run.held.Sublist (owner.kept.map (·.subscription))

variable {snapshot : Snapshot} {owner : Owner}

namespace Orderly

/-- Reports keep order. -/
lemma report (h : owner.Orderly) {run : Run} (hrun : Run.OnlyGivesBack owner.run run) :
    Orderly { owner with run := run } where
  settled := hrun.settled h.settled
  numbered := h.numbered.trans (congrArg List.range hrun.nextSubscription.symm)
  kept := h.kept
  held := hrun.held.trans h.held

lemma attach (h : owner.Orderly) (options : Options) (checks : ConsistencyChecks) :
    (owner.attach snapshot options checks).Orderly where
  settled := h.settled.attach snapshot options checks .report
  numbered := by
    have hattached : (owner.attach snapshot options checks).attached.map (·.subscription) =
        owner.attached.map (·.subscription) ++ [owner.run.nextSubscription] := List.map_append
    rw [hattached, h.numbered]
    exact List.range_succ.symm
  kept := h.kept.append_right _
  held := by
    have hkept : (owner.attach snapshot options checks).kept.map (·.subscription) =
        owner.kept.map (·.subscription) ++ [owner.run.nextSubscription] := List.map_append
    rw [hkept]
    exact h.held.append_right _

lemma drop (h : owner.Orderly) (session : Session) : (owner.drop session).Orderly := by
  unfold Owner.drop
  split
  · have hrun : Run.OnlyGivesBack owner.run (session.detach owner.run) :=
      (Run.release_onlyGivesBack session.subscription owner.run).trans (Run.note_onlyGivesBack _ _)
    have hreport := h.report hrun
    refine ⟨hreport.settled, hreport.numbered, List.filter_sublist.trans h.kept, ?_⟩
    have hheld : (session.detach owner.run).held =
        owner.run.held.filter (· ≠ session.subscription) := Run.held_release _ _
    rw [hheld]
    refine (h.held.filter _).trans ?_
    rw [List.filter_map]
    refine (List.monotone_filter_right _ fun other hother => ?_).map _
    have hne : other.subscription ≠ session.subscription := of_decide_eq_true hother
    exact decide_eq_true fun heq => hne (congrArg Session.subscription heq)
  · exact h

lemma perform (h : owner.Orderly) (step : Step) : (owner.perform snapshot step).Orderly := by
  cases step with
  | attach options checks => exact h.attach options checks
  | replayLoads => exact h.report (Run.deliver_onlyGivesBack _ _ _)
  | replayUnloads => exact h.report (Run.deliver_onlyGivesBack _ _ _)
  | fork => exact h.report (Run.deliver_onlyGivesBack _ _ _)
  | exit => exact h.report (Run.deliver_onlyGivesBack _ _ _)
  | drop session => exact h.drop session

end Orderly

lemma after_orderly (snapshot : Snapshot) (table : Registrations) (steps : List Step) :
    (after snapshot table steps).Orderly := by
  refine List.foldlRecOn _ _ ?_ fun owner h step _ => h.perform step
  exact ⟨⟨rfl, List.forall_mem_nil _, .nil⟩, rfl, .refl _, .refl _⟩

/-! ## Who is attached -/

/-- What a sublist has in common with the whole list is the sublist, if nothing is listed twice. -/
lemma filter_mem_of_sublist {ids others : List SubscriptionId} (h : ids.Sublist others)
    (hnodup : others.Nodup) : others.filter (· ∈ ids) = ids := by
  have hsublist : ids.Sublist (others.filter (· ∈ ids)) := by
    have hfilter := h.filter (· ∈ ids)
    rwa [List.filter_eq_self.2 fun id hid => decide_eq_true hid] at hfilter
  have hsubset : others.filter (· ∈ ids) ⊆ ids := fun id hid => by
    simpa using (List.mem_filter.1 hid).2
  have hle := (List.Nodup.subperm (hnodup.filter _) hsubset).length_le
  exact (hsublist.eq_of_length_le hle).symm

namespace Orderly

/-- The sessions that are attached hold all that is held, among any sessions that include them. -/
lemma map_filter_isAttached (h : owner.Orderly) {sessions : List Session}
    (hheld : owner.run.held.Sublist (sessions.map (·.subscription)))
    (hsessions : sessions.Sublist owner.attached) :
    (sessions.filter (·.isAttached owner.run)).map (·.subscription) = owner.run.held := by
  have hnodup : (sessions.map (·.subscription)).Nodup := by
    refine (hsessions.map _).nodup ?_
    rw [h.numbered]
    exact List.nodup_range
  have hfilter := filter_mem_of_sublist hheld hnodup
  rw [List.filter_map] at hfilter
  exact hfilter

/-- The subscriptions that were given back are those of the sessions not attached any more. -/
lemma unsubscriptions_perm (h : owner.Orderly) :
    owner.run.journal.unsubscriptions.Perm
      ((owner.attached.filter (!·.isAttached owner.run)).map fun session =>
        (session.subscription, true)) := by
  have hheld := h.map_filter_isAttached (h.held.trans (h.kept.map _)) (.refl _)
  have hall := (List.filter_append_perm (fun session : Session => !session.isAttached owner.run)
    owner.attached).map fun session => (session.subscription, true)
  -- What was given back and what is held are all sessions, and so are those that are not attached
  -- and those that are; the latter hold what is held.
  have hreturned := h.settled.returned
  rw [← h.numbered, ← hheld, List.map_map, List.map_map] at hreturned
  simp only [Bool.not_not, List.map_append] at hall
  exact (List.perm_append_right_iff _).1 (hreturned.trans hall.symm)

/-- If no session is attached, nobody observes. -/
lemma observers_eq_nil (h : owner.Orderly)
    (hnone : ∀ session ∈ owner.kept, session.isAttached owner.run = false) :
    owner.run.observers = [] := by
  have hfilter : owner.kept.filter (·.isAttached owner.run) = [] := by
    rw [List.filter_eq_nil_iff]
    exact fun session hsession => by simp [hnone session hsession]
  rw [← List.map_eq_nil_iff, h.settled.observed, ← h.map_filter_isAttached h.held h.kept, hfilter,
    List.map_nil]

end Orderly

/-- **The lives of sessions.**  Whatever an owner of sessions has done, the engine's observers are
those of the kept sessions that are attached.  The sessions are numbered by their subscriptions as
they were attached, and there is no other subscription.  Each session that is not attached any more
has given its subscription back once, to an engine that knew it, and no other request to
unsubscribe was ever made.

To drop a session takes away its own observer if it is attached, and none if it is not.  After an
exit no session is attached.  The registrations change only by the replays, and by these only while
a session is attached. -/
theorem lives_of_sessions (snapshot : Snapshot) (table : Registrations) (steps : List Step) :
    let owner := after snapshot table steps
    let run := owner.run
    let next (step : Step) := (owner.perform snapshot step).run
    run.observers.map (·.1) =
        (owner.kept.filter (·.isAttached run)).map (·.subscription) ∧
      owner.attached.map (·.subscription) = List.range run.nextSubscription ∧
      run.journal.unsubscriptions.Perm
        ((owner.attached.filter (!·.isAttached run)).map fun session =>
          (session.subscription, true)) ∧
      (∀ session ∈ owner.kept, (next (.drop session)).observers =
        if session.isAttached run then run.observers.filter (·.1 ≠ session.subscription)
        else run.observers) ∧
      (∀ session ∈ owner.attached, session.isAttached (next .exit) = false) ∧
      ((∀ session ∈ owner.kept, session.isAttached run = false) →
        (next .replayLoads).registrations = run.registrations ∧
          (next .replayUnloads).registrations = run.registrations) ∧
      ∀ step, step ≠ .replayLoads → step ≠ .replayUnloads →
        (next step).registrations = run.registrations := by
  intro owner run next
  have orderly : owner.Orderly := after_orderly snapshot table steps
  refine ⟨orderly.settled.observed.trans (orderly.map_filter_isAttached orderly.held
    orderly.kept).symm, orderly.numbered, orderly.unsubscriptions_perm, ?_, ?_, ?_, ?_⟩
  · intro session hsession
    change (owner.drop session).run.observers = _
    rw [Owner.drop, if_pos hsession]
    exact session.observers_detach run
  · intro session _
    have hheld : (next .exit).held = [] := orderly.settled.held_deliver_exiting snapshot.engine
    rw [Session.isAttached, hheld]
    rfl
  · intro hnone
    have hdeliver : ∀ events, run.deliver snapshot.engine events = run := fun events =>
      Run.deliver_of_no_observers _ _ (orderly.observers_eq_nil hnone)
    exact ⟨congrArg Run.registrations (hdeliver _), congrArg Run.registrations (hdeliver _)⟩
  · intro step hloads hunloads
    cases step with
    | attach options checks => rfl
    | replayLoads => exact absurd rfl hloads
    | replayUnloads => exact absurd rfl hunloads
    | fork => exact Run.registrations_deliver _ (.inl rfl) run
    | exit => exact Run.registrations_deliver _ (.inr rfl) run
    | drop session =>
      change (owner.drop session).run.registrations = _
      unfold Owner.drop
      split
      · exact session.registrations_detach run
      · rfl

end Owner

/-! ## An exited session that is dropped late -/

namespace DroppedLate

def snapshot : Snapshot where
  pid := 1
  files := .ofList []
  modules := [⟨"/lib/liba.so", 0x2000, 0x3000, none⟩]
  exe := none

/-- The first session is dropped when the process has exited and another session is attached. -/
def steps : List Owner.Step :=
  [.attach .defaults .abort, .replayLoads, .exit, .exit, .attach .defaults .ignore,
    .drop ⟨.defaults, none, 0⟩, .fork]

end DroppedLate

open DroppedLate Owner in
/-- The second session keeps its observer, and the first one has unsubscribed once. -/
theorem observers_after_late_drop :
    (after snapshot ∅ steps).run.observers.map (·.1) = [1] ∧
      (after snapshot ∅ steps).run.journal.unsubscriptions = [(0, true)] := by
  obtain ⟨hobservers, -, hback, -⟩ := lives_of_sessions snapshot ∅ steps
  refine ⟨hobservers.trans (by decide +kernel), List.perm_singleton.1 (hback.trans ?_)⟩
  exact .of_eq (by decide +kernel)

end CallTrace
