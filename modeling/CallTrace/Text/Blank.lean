/-!
# Blanks

The characters with the Unicode property `White_Space`, and the texts that are cut at them.
A zero-width space (U+200B) and the information separators (U+001C to U+001F) lack the
property and count as ordinary characters.
-/

namespace CallTrace.Text

/-- Whether a character has the property `White_Space`. -/
def isBlank (c : Char) : Bool :=
  let n := c.toNat
  (0x09 ≤ n && n ≤ 0x0d) || n == 0x20 || n == 0x85 || n == 0xa0 || n == 0x1680 ||
    (0x2000 ≤ n && n ≤ 0x200a) || n == 0x2028 || n == 0x2029 || n == 0x202f || n == 0x205f ||
    n == 0x3000

/-- The five blanks of ASCII: space, tab, line feed, form feed and carriage return.
The vertical tab is not among them. -/
def isAsciiBlank (c : Char) : Bool :=
  c = ' ' || c = '\t' || c = '\n' || c = '\x0c' || c = '\r'

/-- The text without the blanks at its front. -/
def trimStart (text : List Char) : List Char := text.dropWhile isBlank

/-- The text without the blanks at its end. -/
def trimEnd (text : List Char) : List Char := (text.reverse.dropWhile isBlank).reverse

/-- The text without the blanks at both ends. -/
def trim (text : List Char) : List Char := trimEnd (trimStart text)

/-- The first field of a text, the fields being separated by blanks, and what follows it;
`none` if there is no field. -/
def nextField? (text : List Char) : Option (List Char × List Char) :=
  match trimStart text with
  | [] => none
  | field => some (field.takeWhile (!isBlank ·), field.dropWhile (!isBlank ·))

end CallTrace.Text
