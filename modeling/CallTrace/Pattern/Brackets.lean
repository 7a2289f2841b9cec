import CallTrace.Pattern.Atom

/-!
# Sets in brackets

A set of characters in brackets lists atoms, ranges between two characters, kinds of ASCII by name,
and further sets.  Two sets stand on the sides of a doubled sign: their common part, their
difference, or what is in one of them only.  A caret at the front stands for all characters that
are not in the set, and closing brackets and dashes at the front are members.

Reading a set computes how deep it is nested.
-/

namespace CallTrace.Pattern

/-- The depth of parts side by side: one more than the deepest of them, unless there is only one. -/
def joint : List Nat → Nat
  | [] => 0
  | [depth] => depth
  | depths => (depths.max?.getD 0) + 1

/-- A set whose closing bracket has not come yet. -/
structure OpenSet where
  isNegated : Bool
  /-- The depth of all that stands in front of the last doubled sign. -/
  left : Option Nat
  /-- The depths of the members behind it. -/
  members : List Nat
deriving DecidableEq, Repr

namespace OpenSet

/-- The set with one more member. -/
def add (set : OpenSet) (depth : Nat) : OpenSet := { set with members := depth :: set.members }

/-- The depth inside the brackets. -/
def depth (set : OpenSet) : Nat :=
  let right := joint set.members
  match set.left with
  | none => right
  | some left => max left right + 1

/-- The set behind one more doubled sign. -/
def operate (set : OpenSet) : OpenSet := { set with left := some set.depth, members := [] }

end OpenSet

/-- The number of dashes at the front of a text, and what follows them. -/
def countDashes (settings : Settings) (text : List Char) : Nat × List Char :=
  match h : settings.skip text with
  | '-' :: rest =>
    have : rest.length < text.length := by
      have := settings.length_skip_le text
      rw [h] at this
      simp only [List.length_cons] at this
      omega
    let (count, rest) := countDashes settings rest
    (count + 1, rest)
  | other => (0, other)
termination_by text.length

/-- The set behind an opening bracket, up to where members are no longer special. -/
def openSet? (settings : Settings) (text : List Char) : Option (OpenSet × List Char) :=
  let (isNegated, text) :=
    match settings.skip text with
    | '^' :: rest => (true, rest)
    | other => (false, other)
  let isMember (c : Char) : Bool := (Atom.character c false).isMember settings
  match countDashes settings text with
  | (0, ']' :: rest) => if isMember ']' then some (⟨isNegated, none, [0]⟩, rest) else none
  | (0, rest) => some (⟨isNegated, none, []⟩, rest)
  | (count, rest) =>
    if isMember '-' then some (⟨isNegated, none, List.replicate count 0⟩, rest) else none

/-- The names of kinds of ASCII. -/
def asciiNames : List String :=
  ["alnum", "alpha", "ascii", "blank", "cntrl", "digit", "graph", "lower", "print", "punct", "space",
   "upper", "word", "xdigit"]

/-- The rest behind a named kind of ASCII, whose opening bracket has been read, and whether the kind
is negated. -/
def asciiKind? : List Char → Option (Bool × List Char)
  | ':' :: text =>
    let (isNegated, text) :=
      match text with
      | '^' :: rest => (true, rest)
      | other => (false, other)
    match text.dropWhile (· ≠ ':') with
    | ':' :: ']' :: rest =>
      if asciiNames.contains (String.ofList (text.takeWhile (· ≠ ':'))) then some (isNegated, rest)
      else none
    | _ => none
  | _ => none

/-- The first character that is no blank, passing the sign of a comment but not the comment. -/
def firstMark? (inComment : Bool) : List Char → Option Char
  | [] => none
  | c :: rest =>
    if Text.isBlank c then firstMark? inComment rest
    else if c = '#' && !inComment then firstMark? true rest
    else some c

/-- Whether a dash, with the text behind it, does not make a range: the set ends there, or the dash
is doubled. -/
def isPlainDash (settings : Settings) (rest : List Char) : Bool :=
  let next :=
    if settings.isSpaced then (firstMark? false rest).or rest.head? else rest.head?
  next = some ']' || next = some '-'

/-- The rest of a text behind an atom or a range at its front. -/
def readMember (settings : Settings) (text : List Char) : Option (List Char) :=
  match readAtom settings text with
  | none => none
  | some (low, rest) =>
    let alone (rest : List Char) : Option (List Char) :=
      if low.isMember settings then some rest else none
    match settings.skip rest with
    | '-' :: more =>
      if isPlainDash settings more then alone ('-' :: more)
      else
        match readAtom settings (settings.skip more) with
        | none => none
        | some (high, after) =>
          if low.isRange high && low.isMember settings && high.isMember settings then some after
          else none
    | other => alone other

/-- The reading of a set: the innermost set that is open, and those around it. -/
structure SetReading where
  innermost : OpenSet
  outer : List OpenSet
deriving DecidableEq, Repr

/-- How the reading of a set goes on. -/
inductive SetProgress where
  | reading (next : SetReading)
  /-- All brackets are closed; the whole set has a depth. -/
  | closed (depth : Nat)
deriving DecidableEq, Repr

namespace SetReading

/-- The reading with one more member of the innermost set. -/
def add (reading : SetReading) (depth : Nat) : SetReading :=
  { reading with innermost := reading.innermost.add depth }

/-- Closes the innermost set. -/
def close (reading : SetReading) : SetProgress :=
  let depth := reading.innermost.depth + 1
  match reading.outer with
  | [] => .closed depth
  | next :: outer => .reading ⟨next.add depth, outer⟩

/-- Reads what is next in a set. -/
def step (settings : Settings) (reading : SetReading) (text : List Char) :
    Option (SetProgress × List Char) :=
  match settings.skip text with
  | [] => none
  | ']' :: rest =>
    if reading.innermost.isNegated && !settings.aboutCharacters then none
    else some (reading.close, rest)
  | '[' :: rest =>
    match asciiKind? rest with
    | some (isNegated, after) =>
      let isKnown := if settings.aboutCharacters then !settings.ignoresCase else !isNegated
      if isKnown then some (.reading (reading.add 0), after) else none
    | none =>
      (openSet? settings rest).map fun (fresh, after) =>
        (.reading ⟨fresh, reading.innermost :: reading.outer⟩, after)
  | '&' :: '&' :: rest | '-' :: '-' :: rest | '~' :: '~' :: rest =>
    some (.reading { reading with innermost := reading.innermost.operate }, rest)
  | other => (readMember settings other).map fun after => (.reading (reading.add 0), after)

/-- Reads a set to its end: its depth, and what follows it. -/
def run (settings : Settings) (reading : SetReading) (text : List Char) :
    Option (Nat × List Char) :=
  match reading.step settings text with
  | none => none
  | some (.closed depth, rest) => some (depth, rest)
  | some (.reading next, rest) =>
    if rest.length < text.length then next.run settings rest else none
termination_by text.length

end SetReading

/-- Reads the set behind an opening bracket: its depth, and what follows it. -/
def readSet (settings : Settings) (text : List Char) : Option (Nat × List Char) :=
  match openSet? settings text with
  | none => none
  | some (fresh, rest) => SetReading.run settings ⟨fresh, []⟩ rest

end CallTrace.Pattern
