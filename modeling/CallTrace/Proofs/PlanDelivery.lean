import Mathlib.Algebra.GroupWithZero.Nat
import Mathlib.Tactic.Lemma
import Mathlib.Tactic.Push
import CallTrace.Plan.Delivery

/-!
# What becomes of a delivered plan

Whatever a writer does, the bytes that it has accepted are the beginning of the text, it is flushed
once if they are the whole text and never otherwise, and a failure is kept quiet only if it is that
of a closed pipe (`Delivery.ofText_faithful`).

What a writer does is said here by its responses alone, without following the loop that asks for
them.  `Stops` says that they end the writing: one of them is a failure, those in front of it are
none, and together these take less than there is to write.  So a failure further back, which the
writing never comes to, does not count.  Each response that is survived leaves the same question for
the responses behind it and the bytes that are left, and with this the loop is followed in both
cases, that the writing stops (`Delivery.writeAll_of_stops`) and that it does not
(`Delivery.writeAll_of_not_stops`).
-/

namespace CallTrace

variable {Further : Type}

/-! ## Failures of a writer -/

lemma WriteError.isBrokenPipe_iff {cause : WriteError Further} :
    cause.isBrokenPipe ↔ cause = .brokenPipe := by
  cases cause <;> simp [isBrokenPipe]

namespace WriteResponse

/-- The failure that a response amounts to while there is something left to write.  To be
interrupted is none, and to accept nothing is one. -/
def failure? : WriteResponse Further → Option (WriteError Further)
  | accepts 0 => some .writeZero
  | accepts _ => none
  | fails .interrupted => none
  | fails cause => some cause

/-- How many bytes a response takes at most. -/
def limit : WriteResponse Further → Nat
  | accepts limit => limit
  | fails _ => 0

/-- Of `size` bytes a writer takes the first `taken`, which are not all, and then `cause` ends the
writing. -/
def Stops (responses : List (WriteResponse Further)) (size taken : Nat)
    (cause : WriteError Further) : Prop :=
  ∃ front response back, responses = front ++ response :: back ∧
    (∀ earlier ∈ front, earlier.failure? = none) ∧ (front.map limit).sum = taken ∧ taken < size ∧
      response.failure? = some cause

variable {response : WriteResponse Further} {responses : List (WriteResponse Further)}
  {size taken : Nat} {cause : WriteError Further}

/-- A response that is survived leaves the rest of the bytes to the responses behind it. -/
lemma Stops.cons (hresponse : response.failure? = none)
    (h : Stops responses (size - response.limit) taken cause) :
    Stops (response :: responses) size (response.limit + taken) cause := by
  obtain ⟨front, last, back, rfl, hfront, rfl, hlt, hlast⟩ := h
  refine ⟨response :: front, last, back, rfl, List.forall_mem_cons.2 ⟨hresponse, hfront⟩, ?_, ?_,
    hlast⟩
  · rw [List.map_cons, List.sum_cons]
  · omega

end WriteResponse

open WriteResponse (Stops)

/-- The failure that a writer of `size` bytes comes to first: one that ends the writing, or that of
the flush once everything is written. -/
inductive Writer.FirstFailure (writer : Writer Further) (size : Nat) (cause : WriteError Further) :
    Prop where
  | write {taken : Nat} (h : Stops writer.responses size taken cause)
  | flush (hall : ∀ taken earlier, ¬ Stops writer.responses size taken earlier)
      (h : writer.flushFailure = some cause)

/-! ## The loop -/

namespace Delivery

variable {response : WriteResponse Further} {responses : List (WriteResponse Further)}
  {rest : List UInt8} {taken : Nat} {cause : WriteError Further}

lemma writeAll_of_failure (hrest : rest ≠ []) (h : response.failure? = some cause) :
    writeAll (response :: responses) rest = ⟨[], 1, 0, some cause⟩ := by
  obtain ⟨byte, more, rfl⟩ := List.exists_cons_of_ne_nil hrest
  rcases response with (_ | limit) | reason
  · obtain rfl : .writeZero = cause := Option.some.inj h
    rfl
  · simp [WriteResponse.failure?] at h
  · cases reason <;> simp_all [WriteResponse.failure?, writeAll]

lemma writeAll_of_survived (hrest : rest ≠ []) (h : response.failure? = none) :
    writeAll (response :: responses) rest =
      (writeAll responses (rest.drop response.limit)).after (rest.take response.limit) := by
  obtain ⟨byte, more, rfl⟩ := List.exists_cons_of_ne_nil hrest
  rcases response with (_ | limit) | reason
  · simp [WriteResponse.failure?] at h
  · rfl
  · cases reason <;> simp_all [WriteResponse.failure?, WriteResponse.limit, writeAll]

/-- What was taken in front of the response that ends the writing is all that was accepted. -/
lemma writeAll_of_stops (h : Stops responses rest.length taken cause) :
    ∃ attempts, writeAll responses rest = ⟨rest.take taken, attempts, 0, some cause⟩ := by
  obtain ⟨front, last, back, rfl, hfront, rfl, hlt, hlast⟩ := h
  induction front generalizing rest with
  | nil =>
    have hrest : rest ≠ [] := List.length_pos_iff.1 hlt
    exact ⟨1, writeAll_of_failure hrest hlast⟩
  | cons response front ih =>
    obtain ⟨hresponse, hfront⟩ := List.forall_mem_cons.1 hfront
    rw [List.map_cons, List.sum_cons] at hlt ⊢
    have hrest : rest ≠ [] := List.length_pos_iff.1 (Nat.zero_lt_of_lt hlt)
    have hless : (front.map WriteResponse.limit).sum < (rest.drop response.limit).length := by
      rw [List.length_drop]
      omega
    obtain ⟨attempts, hmore⟩ := ih hfront hless
    refine ⟨attempts + 1, ?_⟩
    rw [List.cons_append, writeAll_of_survived hrest hresponse, hmore, after, List.take_add]

/-- If nothing ends the writing, everything is accepted. -/
lemma writeAll_of_not_stops (h : ∀ taken cause, ¬ Stops responses rest.length taken cause) :
    ∃ attempts, writeAll responses rest = ⟨rest, attempts, 0, none⟩ := by
  induction responses generalizing rest with
  | nil =>
    cases rest with
    | nil => exact ⟨0, rfl⟩
    | cons byte rest => exact ⟨1, rfl⟩
  | cons response responses ih =>
    by_cases hrest : rest = []
    · exact ⟨0, by rw [hrest, writeAll]⟩
    cases hresponse : response.failure? with
    | some cause =>
      have hpos : 0 < rest.length := List.length_pos_iff.2 hrest
      exact absurd ⟨[], response, responses, rfl, by simp, rfl, hpos, hresponse⟩ (h 0 cause)
    | none =>
      have hbehind (taken : Nat) (cause : WriteError Further) :
          ¬ Stops responses (rest.drop response.limit).length taken cause := by
        intro hstops
        rw [List.length_drop] at hstops
        exact h _ cause (hstops.cons hresponse)
      obtain ⟨attempts, hmore⟩ := ih hbehind
      refine ⟨attempts + 1, ?_⟩
      rw [writeAll_of_survived hrest hresponse, hmore, after, List.take_append_drop]

lemma attempts_writeAll_eq_zero_iff : (writeAll responses rest).attempts = 0 ↔ rest = [] := by
  fun_cases writeAll responses rest <;> simp_all [after]

/-! ## The whole delivery -/

variable {writer : Writer Further} {text : List UInt8}

lemma writeAndFlush_of_stops (h : Stops writer.responses text.length taken cause) :
    ∃ attempts, writeAndFlush writer text = ⟨text.take taken, attempts, 0, some cause⟩ := by
  obtain ⟨attempts, hwritten⟩ := writeAll_of_stops h
  exact ⟨attempts, by rw [writeAndFlush, hwritten]⟩

lemma writeAndFlush_of_not_stops
    (h : ∀ taken cause, ¬ Stops writer.responses text.length taken cause) :
    ∃ attempts, writeAndFlush writer text = ⟨text, attempts, 1, writer.flushFailure⟩ := by
  obtain ⟨attempts, hwritten⟩ := writeAll_of_not_stops h
  exact ⟨attempts, by rw [writeAndFlush, hwritten]⟩

/-- A delivery ends in one of two ways: before everything is written, or with a flush. -/
lemma writeAndFlush_cases (writer : Writer Further) (text : List UInt8) :
    (∃ taken cause attempts, Stops writer.responses text.length taken cause ∧
      writeAndFlush writer text = ⟨text.take taken, attempts, 0, some cause⟩) ∨
    ((∀ taken cause, ¬ Stops writer.responses text.length taken cause) ∧
      ∃ attempts, writeAndFlush writer text = ⟨text, attempts, 1, writer.flushFailure⟩) := by
  by_cases hstops : ∃ taken cause, Stops writer.responses text.length taken cause
  · obtain ⟨taken, cause, hstops⟩ := hstops
    obtain ⟨attempts, hdelivery⟩ := writeAndFlush_of_stops hstops
    exact .inl ⟨taken, cause, attempts, hstops, hdelivery⟩
  · push Not at hstops
    exact .inr ⟨hstops, writeAndFlush_of_not_stops hstops⟩

/-- A writer that stops has not taken everything. -/
lemma take_ne_of_stops (h : Stops responses rest.length taken cause) : rest.take taken ≠ rest := by
  obtain ⟨_, _, _, _, _, _, hlt, _⟩ := h
  intro hall
  have hlength := congrArg List.length hall
  rw [List.length_take] at hlength
  omega

lemma failure_writeAndFlush_eq_some_iff :
    (writeAndFlush writer text).failure = some cause ↔ writer.FirstFailure text.length cause := by
  constructor
  · intro h
    rcases writeAndFlush_cases writer text with
      ⟨taken, first, attempts, hstops, hdelivery⟩ | ⟨hall, attempts, hdelivery⟩
    · rw [hdelivery] at h
      obtain rfl : first = cause := Option.some.inj h
      exact .write hstops
    · rw [hdelivery] at h
      exact .flush hall h
  · rintro (hstops | ⟨hall, hflush⟩)
    · obtain ⟨attempts, hdelivery⟩ := writeAndFlush_of_stops hstops
      rw [hdelivery]
    · obtain ⟨attempts, hdelivery⟩ := writeAndFlush_of_not_stops hall
      rw [hdelivery]
      exact hflush

lemma failure_writeAndFlush_eq_none_iff :
    (writeAndFlush writer text).failure = none ↔
      (writeAndFlush writer text).accepted = text ∧ writer.flushFailure = none := by
  rcases writeAndFlush_cases writer text with
    ⟨taken, first, attempts, hstops, hdelivery⟩ | ⟨hall, attempts, hdelivery⟩
  · simp [hdelivery, take_ne_of_stops hstops]
  · simp [hdelivery]

lemma accepted_writeAndFlush_prefix (writer : Writer Further) (text : List UInt8) :
    (writeAndFlush writer text).accepted <+: text := by
  rcases writeAndFlush_cases writer text with
    ⟨taken, first, attempts, hstops, hdelivery⟩ | ⟨hall, attempts, hdelivery⟩
  · simp [hdelivery, List.take_prefix]
  · simp [hdelivery]

lemma flushes_writeAndFlush (writer : Writer Further) (text : List UInt8) :
    (writeAndFlush writer text).flushes =
      if (writeAndFlush writer text).accepted = text then 1 else 0 := by
  rcases writeAndFlush_cases writer text with
    ⟨taken, first, attempts, hstops, hdelivery⟩ | ⟨hall, attempts, hdelivery⟩
  · rw [hdelivery, if_neg (take_ne_of_stops hstops)]
  · rw [hdelivery, if_pos rfl]

lemma attempts_writeAndFlush (writer : Writer Further) (text : List UInt8) :
    (writeAndFlush writer text).attempts = (writeAll writer.responses text).attempts := by
  simp only [writeAndFlush]
  split <;> rfl

/-- What has to become of a text, by what its writer does. -/
structure Faithful (writer : Writer Further) (text : String) (delivery : Delivery Further) :
    Prop where
  /-- Nothing is repeated or out of order, and what is missing is missing at the end. -/
  accepted_prefix : delivery.accepted <+: Text.bytes text
  /-- Every byte that the writer took before it stopped counts as accepted, and no other one. -/
  accepted_of_stops {taken : Nat} {cause : WriteError Further}
    (h : Stops writer.responses (Text.bytes text).length taken cause) :
    delivery.accepted = (Text.bytes text).take taken
  accepted_of_not_stops
    (h : ∀ taken cause, ¬ Stops writer.responses (Text.bytes text).length taken cause) :
    delivery.accepted = Text.bytes text
  flushes_eq : delivery.flushes = if delivery.accepted = Text.bytes text then 1 else 0
  succeeds_iff : delivery.failure = none ↔
    (delivery.accepted = Text.bytes text ∧ writer.flushFailure = none) ∨
      writer.FirstFailure (Text.bytes text).length .brokenPipe
  fails_iff {cause : WriteError Further} : delivery.failure = some cause ↔
    cause ≠ .brokenPipe ∧ writer.FirstFailure (Text.bytes text).length cause
  attempts_eq_zero_iff : delivery.attempts = 0 ↔ text = ""

/-- A closed pipe is the only failure that is kept quiet. -/
lemma failure_ofText_eq_none_iff {writer : Writer Further} {text : String} :
    (ofText writer text).failure = none ↔
      (writeAndFlush writer (Text.bytes text)).failure = none ∨
        (writeAndFlush writer (Text.bytes text)).failure = some .brokenPipe := by
  rw [ofText]
  cases (writeAndFlush writer (Text.bytes text)).failure with
  | none => simp
  | some cause => simp [Option.filter_some, WriteError.isBrokenPipe_iff]

/-- **A delivery is honest about what it has delivered.**  Whatever the responses of the writer are,
in any number and order, what it has accepted is the beginning of the text, and it is flushed once
if that is the whole text and never otherwise.  The first failure is returned as it is, whether it
comes from writing or from the flush, except for that of a closed pipe. -/
theorem ofText_faithful (writer : Writer Further) (text : String) :
    (ofText writer text).Faithful writer text where
  accepted_prefix := accepted_writeAndFlush_prefix writer (Text.bytes text)
  accepted_of_stops h := by
    obtain ⟨attempts, hdelivery⟩ := writeAndFlush_of_stops h
    rw [ofText, hdelivery]
  accepted_of_not_stops h := by
    obtain ⟨attempts, hdelivery⟩ := writeAndFlush_of_not_stops h
    rw [ofText, hdelivery]
  flushes_eq := flushes_writeAndFlush writer (Text.bytes text)
  succeeds_iff := by
    rw [failure_ofText_eq_none_iff, failure_writeAndFlush_eq_none_iff,
      failure_writeAndFlush_eq_some_iff]
    rfl
  fails_iff := by
    intro cause
    rw [ofText, Option.filter_eq_some_iff, failure_writeAndFlush_eq_some_iff, and_comm,
      Bool.not_eq_true', ← Bool.not_eq_true, WriteError.isBrokenPipe_iff]
  attempts_eq_zero_iff := by
    have hbytes : Text.bytes text = [] ↔ text = "" :=
      ⟨fun h => Text.eq_of_bytes_eq h, fun h => h ▸ rfl⟩
    rw [ofText, attempts_writeAndFlush, attempts_writeAll_eq_zero_iff, hbytes]

/-- An interruption is survived, a short write is continued, and a closed pipe is kept quiet. -/
example : (ofText ⟨[.fails .interrupted, .accepts 1, .fails .brokenPipe], none⟩ "ab\n" : Delivery) =
    ⟨[97], 3, 0, none⟩ := by
  decide +kernel

/-- An interrupted flush is not tried again. -/
example : (ofText ⟨[.accepts 1], some .interrupted⟩ "a\n" : Delivery) =
    ⟨[97, 10], 2, 1, some .interrupted⟩ := by
  decide +kernel

end Delivery

end CallTrace
