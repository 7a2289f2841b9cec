import CallTrace.Text.Numeral

/-!
# Signed numerals

Decimal numbers with an optional sign that have to fit a range.  The digits are read from left to
right, and the first thing that is wrong with them is reported: a character that is no digit, or
the digit with which the number leaves the words of 64 bits.  A number of 64 bits outside the
range is reported with its value.
-/

namespace CallTrace.Numeral

/-- What is wrong with a signed number. -/
inductive SignedError where
  | empty
  | invalidDigit
  | tooLarge
  | tooSmall
  | outOfRange (value low high : Int)
deriving DecidableEq, Repr

/-- The written form of a whole number. -/
def signed (n : Int) : String :=
  let digits := String.ofList (write 10 n.natAbs)
  if n < 0 then "-" ++ digits else digits

/-- The text of an error. -/
def SignedError.message : SignedError → String
  | empty => "cannot parse integer from empty string"
  | invalidDigit => "invalid digit found in string"
  | tooLarge => "number too large to fit in target type"
  | tooSmall => "number too small to fit in target type"
  | outOfRange value low high =>
    signed value ++ " is not in " ++ signed low ++ "..=" ++ signed high

/-- Reads digits behind a number whose magnitude so far is `sum` and must not pass `limit`. -/
def readMagnitude (limit : Nat) (overflow : SignedError) :
    (sum : Nat) → List Char → Except SignedError Nat
  | sum, [] => .ok sum
  | sum, c :: rest =>
    match digitValue? 10 c with
    | none => .error .invalidDigit
    | some d =>
      if sum * 10 + d > limit then .error overflow
      else readMagnitude limit overflow (sum * 10 + d) rest

/-- The magnitude of the least number of 64 bits; that of the greatest is one less. -/
def wordMagnitude : Nat := UInt64.size / 2

/-- Reads a number of 64 bits. -/
def readWord (text : List Char) : Except SignedError Int :=
  match text with
  | [] => .error .empty
  | ['+'] | ['-'] => .error .invalidDigit
  | '-' :: digits => (readMagnitude wordMagnitude .tooSmall 0 digits).map fun n => -(n : Int)
  | '+' :: digits => (readMagnitude (wordMagnitude - 1) .tooLarge 0 digits).map fun n => (n : Int)
  | digits => (readMagnitude (wordMagnitude - 1) .tooLarge 0 digits).map fun n => (n : Int)

/-- Reads a number from `low` to `high`. -/
def readSigned (low high : Int) (text : String) : Except SignedError Int :=
  match readWord text.toList with
  | .error cause => .error cause
  | .ok n => if low ≤ n ∧ n ≤ high then .ok n else .error (.outOfRange n low high)

end CallTrace.Numeral
