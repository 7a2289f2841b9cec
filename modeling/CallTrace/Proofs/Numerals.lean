import Mathlib.Tactic.Lemma
import Mathlib.Tactic.SplitIfs
import CallTrace.Text.Numeral

/-!
# Which texts are numerals

Reading a number skips a plus sign and goes through digits from the front, and it fails as soon as
the value reaches its bound.  This file says without a reader which texts have a number: digits, at
least one, with or without a plus sign (`read?_eq_some_iff_exists_digits`, for every base).

For decimal numbers the digits and their value are those of the core library (`SpellsDecimal`).  So
a number that is written in decimal digits (`spellsDecimal_write`) is read back, if only it lies
below the bound.
-/

namespace CallTrace.Numeral

/-! ## Digits behind a sign -/

/-- The sign is no digit of any base. -/
lemma digitValue?_plus (base : Nat) : digitValue? base '+' = none := by
  simp [digitValue?]

lemma read?_eq_some_iff_exists_digits {base bound n : Nat} {text : List Char} :
    read? base bound text = some n ↔
      n < bound ∧ ∃ digits, (text = digits ∨ text = '+' :: digits) ∧ digits ≠ [] ∧
        readDigits? base 0 digits = some n := by
  have hread : read? base bound text = some n ↔
      n < bound ∧ dropPlus text ≠ [] ∧ readDigits? base 0 (dropPlus text) = some n := by
    unfold read?
    split <;> rename_i hdigits
    · simp [hdigits]
    · have hne : dropPlus text ≠ [] := hdigits
      simp [Option.filter_eq_some_iff, hne, and_comm]
  rw [hread]
  refine and_congr_right fun _ => ⟨?_, ?_⟩
  · rintro ⟨hne, hdigits⟩
    refine ⟨dropPlus text, ?_, hne, hdigits⟩
    unfold dropPlus
    split
    · exact .inr rfl
    · exact .inl rfl
  · rintro ⟨digits, rfl | rfl, hne, hdigits⟩
    · -- No number begins with a second sign, so there is nothing to drop.
      have hsame : dropPlus text = text := by
        unfold dropPlus
        split
        · simp [readDigits?, digitValue?_plus] at hdigits
        · rfl
      rw [hsame]
      exact ⟨hne, hdigits⟩
    · exact ⟨hne, hdigits⟩

/-! ## Decimal numbers -/

/-- A number in decimal digits, at least one, with or without a plus sign. -/
def SpellsDecimal (text : List Char) (n : Nat) : Prop :=
  ∃ digits, (text = digits ∨ text = '+' :: digits) ∧ digits ≠ [] ∧
    (∀ c ∈ digits, c.isDigit) ∧ Nat.ofDigitChars 10 digits 0 = n

lemma digitValue?_ten_eq_some_iff {c : Char} {value : Nat} :
    digitValue? 10 c = some value ↔ c.isDigit ∧ c.toNat - '0'.toNat = value := by
  have hle (a b : Char) : a ≤ b ↔ a.toNat ≤ b.toNat := Iff.rfl
  have hdigit : c.isDigit = true ↔ '0' ≤ c ∧ c ≤ '9' := by
    rw [Char.isDigit, Bool.and_eq_true, decide_eq_true_iff, decide_eq_true_iff]
    rfl
  rw [hdigit, digitValue?]
  simp only [hle, Char.reduceToNat, Option.ite_none_right_eq_some, Option.some.injEq]
  split_ifs <;> omega

lemma readDigits?_ten_eq_some_iff {digits : List Char} {sum n : Nat} :
    readDigits? 10 sum digits = some n ↔
      (∀ c ∈ digits, c.isDigit) ∧ Nat.ofDigitChars 10 digits sum = n := by
  induction digits generalizing sum with
  | nil => simp [readDigits?]
  | cons c digits ih =>
    rw [readDigits?, Option.bind_eq_some_iff, List.forall_mem_cons, Nat.ofDigitChars_cons,
      Nat.mul_comm 10 sum]
    constructor
    · rintro ⟨value, hvalue, hrest⟩
      obtain ⟨hc, rfl⟩ := digitValue?_ten_eq_some_iff.1 hvalue
      obtain ⟨hdigits, hn⟩ := ih.1 hrest
      exact ⟨⟨hc, hdigits⟩, hn⟩
    · rintro ⟨⟨hc, hdigits⟩, hn⟩
      exact ⟨_, digitValue?_ten_eq_some_iff.2 ⟨hc, rfl⟩, ih.2 ⟨hdigits, hn⟩⟩

lemma read?_ten_eq_some_iff {bound n : Nat} {text : List Char} :
    read? 10 bound text = some n ↔ n < bound ∧ SpellsDecimal text n := by
  simp only [read?_eq_some_iff_exists_digits, readDigits?_ten_eq_some_iff]
  rfl

lemma spellsDecimal_write (n : Nat) : SpellsDecimal (write 10 n) n :=
  ⟨write 10 n, .inl rfl, Nat.toDigits_ne_nil,
    fun _ hc => Nat.isDigit_of_mem_toDigits (by decide) (by decide) hc,
    Nat.ofDigitChars_toDigits (by decide) (by decide)⟩

end CallTrace.Numeral
