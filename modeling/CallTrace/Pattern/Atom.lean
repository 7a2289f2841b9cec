import CallTrace.Pattern.Settings
import CallTrace.Text.Numeral

/-!
# Atoms of patterns

The smallest parts of a pattern: single characters, which may be escaped by a backslash, and what
else stands behind one.  Patterns know nothing about characters beyond ASCII but their order, so
whatever depends on their kind or on their case is unknown.
-/

namespace CallTrace.Pattern

/-- One of the smallest parts of a pattern. -/
inductive Atom where
  /-- A character; `isByte` tells that it is written as a byte in hexadecimal. -/
  | character (c : Char) (isByte : Bool)
  /-- Digits, blanks or the characters of words, or all characters but these. -/
  | kind (negated : Bool)
  /-- A kind of characters by its Unicode name. -/
  | property
  /-- An end of the text. -/
  | anchor
  /-- A place where a word begins or ends, or where none does. -/
  | wordBoundary
deriving DecidableEq, Repr

/-- The characters that have a meaning of their own in some place of a pattern. -/
def metaCharacters : List Char :=
  ['\\', '.', '+', '*', '?', '(', ')', '|', '[', ']', '\x7b', '\x7d', '^', '$', '#', '&', '-', '~']

/-- Whether a backslash in front of a character stands for the character itself. -/
def isEscapable (c : Char) : Bool :=
  metaCharacters.contains c || (c.toNat < 0x80 && !c.isAlphanum && c ≠ '<' && c ≠ '>')

/-- The value of the next `count` hexadecimal digits, which continue `value`. -/
def readHexadecimal (settings : Settings) :
    (count value : Nat) → List Char → Option (Nat × List Char)
  | 0, value, text => some (value, text)
  | count + 1, value, text =>
    match settings.skip text with
    | [] => none
    | c :: rest =>
      match Numeral.digitValue? 16 c with
      | none => none
      | some digit => readHexadecimal settings count (16 * value + digit) rest

/-- The character with a number, if there is one. -/
def charOf? (n : Nat) : Option Char := if h : n.isValidChar then some (Char.ofNatAux n h) else none

/-- The atom whose character is written by `count` hexadecimal digits. -/
def readCode (settings : Settings) (count : Nat) (text : List Char) : Option (Atom × List Char) :=
  match readHexadecimal settings count 0 text with
  | none => none
  | some (value, rest) => (charOf? value).map fun c => (.character c (count = 2), rest)

/-- The atom behind a backslash. -/
def readEscape (settings : Settings) : List Char → Option (Atom × List Char)
  | [] => none
  | c :: rest =>
    match c with
    | 'x' => readCode settings 2 rest
    | 'u' => readCode settings 4 rest
    | 'U' => readCode settings 8 rest
    | 'p' | 'P' => some (.property, rest)
    | 'd' | 's' | 'w' => some (.kind false, rest)
    | 'D' | 'S' | 'W' => some (.kind true, rest)
    | 'a' => some (.character '\x07' false, rest)
    | 'f' => some (.character '\x0c' false, rest)
    | 't' => some (.character '\t' false, rest)
    | 'n' => some (.character '\n' false, rest)
    | 'r' => some (.character '\r' false, rest)
    | 'v' => some (.character '\x0b' false, rest)
    | 'A' | 'z' => some (.anchor, rest)
    | 'b' | 'B' | '<' | '>' => some (.wordBoundary, rest)
    | _ => if isEscapable c then some (.character c false, rest) else none

/-- The atom at the front of a text in brackets, where only the backslash is special. -/
def readAtom (settings : Settings) : List Char → Option (Atom × List Char)
  | [] => none
  | '\\' :: rest => readEscape settings rest
  | c :: rest => some (.character c false, rest)

namespace Atom

/-- Whether an atom is known under the settings.  Case is unknown among characters; the kinds are
those of ASCII, and known only among bytes.  A pattern must match whole characters, so single bytes
beyond ASCII and all bytes but some are out. -/
def isKnown (settings : Settings) : Atom → Bool
  | character c isByte =>
    if settings.aboutCharacters then !settings.ignoresCase else !(isByte && 0x80 ≤ c.toNat)
  | kind negated => !settings.aboutCharacters && !negated
  | property => false
  | anchor | wordBoundary => true

/-- Whether an atom may be a member of a set in brackets; among bytes a character beyond ASCII is
none. -/
def isMember (settings : Settings) : Atom → Bool
  | character c isByte =>
    (character c isByte).isKnown settings && (settings.aboutCharacters || c.toNat < 0x80)
  | kind negated => (kind negated).isKnown settings
  | property | anchor | wordBoundary => false

/-- Whether two atoms are the ends of a range of characters. -/
def isRange : Atom → Atom → Bool
  | character low _, character high _ => low ≤ high
  | _, _ => false

end Atom

end CallTrace.Pattern
