/-!
# Numerals

Unsigned numbers as text, in any base up to sixteen.  Writing is done with the digits of the
core library, most significant first and without leading zeros.  Reading is strict: one plus
sign may come first, at least one digit must follow, nothing else may, and the value has to
lie below a given bound, so that a number that does not fit its word is no number at all.
-/

namespace CallTrace.Numeral

/-- The digits of `n` in `base`. -/
def write (base n : Nat) : List Char := Nat.toDigits base n

/-- The value of one digit; letters of either case stand for ten to fifteen. -/
def digitValue? (base : Nat) (c : Char) : Option Nat :=
  let value :=
    if '0' ≤ c ∧ c ≤ '9' then c.toNat - '0'.toNat
    else if 'a' ≤ c ∧ c ≤ 'f' then c.toNat - 'a'.toNat + 10
    else if 'A' ≤ c ∧ c ≤ 'F' then c.toNat - 'A'.toNat + 10
    else base
  if value < base then some value else none

/-- Reads further digits behind a number whose value so far is `sum`. -/
def readDigits? (base : Nat) : (sum : Nat) → List Char → Option Nat
  | sum, [] => some sum
  | sum, c :: rest => (digitValue? base c).bind fun d => readDigits? base (sum * base + d) rest

/-- What is left after one optional plus sign. -/
def dropPlus : List Char → List Char
  | '+' :: rest => rest
  | text => text

/-- The number below `bound` that `text` spells in `base`, if it spells one. -/
def read? (base bound : Nat) (text : List Char) : Option Nat :=
  match dropPlus text with
  | [] => none
  | digits => (readDigits? base 0 digits).filter (· < bound)

end CallTrace.Numeral
