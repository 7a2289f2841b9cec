import CallTrace.Text.Numeral

/-!
# Addresses

An address of the traced process is a word of 64 bits, and arithmetic on addresses wraps.
In every text it is written in hexadecimal behind `0x`, with lower-case digits and without
leading zeros.
-/

namespace CallTrace

/-- An address of code or data inside the traced process. -/
abbrev Address := UInt64

namespace Address

/-- The hexadecimal digits of an address. -/
def digits (pc : Address) : List Char := Numeral.write 16 pc.toNat

/-- The written form of an address, such as `0x7f00`. -/
def text (pc : Address) : String := "0x" ++ String.ofList (digits pc)

/-- The start of the page of 4096 bytes that holds the address. -/
def pageStart (pc : Address) : Address := pc &&& ~~~0xfff

end Address

end CallTrace
