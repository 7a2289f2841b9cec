/-!
# Decimal numbers

Which texts spell a number in decimal notation: a sign, digits with a point in front of, between or
behind them, and a power of ten, of which only digits have to be there.  The words for the infinite
and for what is no number are numbers too, in any case.
-/

namespace CallTrace.Text

/-- What follows a sign, if there is one. -/
def dropSign : List Char → List Char
  | '+' :: rest | '-' :: rest => rest
  | text => text

/-- Whether a text is a power of ten behind a number, or nothing. -/
def isPower : List Char → Bool
  | [] => true
  | mark :: power =>
    let digits := dropSign power
    (mark = 'e' || mark = 'E') && !digits.isEmpty && digits.all Char.isDigit

/-- Whether a text without a sign is a number in digits. -/
def isUnsignedDecimal (text : List Char) : Bool :=
  let whole := text.takeWhile Char.isDigit
  match text.dropWhile Char.isDigit with
  | '.' :: rest =>
    let fraction := rest.takeWhile Char.isDigit
    !(whole.isEmpty && fraction.isEmpty) && isPower (rest.dropWhile Char.isDigit)
  | rest => !whole.isEmpty && isPower rest

/-- The words that are numbers. -/
def numberWords : List String := ["inf", "infinity", "nan"]

/-- Whether a text spells a number. -/
def isNumber (text : List Char) : Bool :=
  let unsigned := dropSign text
  isUnsignedDecimal unsigned || numberWords.contains (String.ofList (unsigned.map Char.toLower))

end CallTrace.Text
