import CallTrace.Pattern.Brackets
import CallTrace.Text.Alphanumeric

/-!
# Patterns

A pattern describes texts: by characters, sets of them, repetitions, groups and alternatives.
Patterns are only judged here, and never matched.  A text may be no pattern at all, or one that asks
for the boundaries of words of characters, which no matching can find byte by byte.

A pattern stands between braces and holds none itself, so a repetition that is counted between
braces cannot end: an opening brace outside of brackets is always wrong.  Nor does a pattern look
ahead or behind, or back at what a group has matched.
-/

namespace CallTrace

/-- Why a text cannot be used as a pattern. -/
inductive PatternError where
  | unreadable
  | wordBoundary
deriving DecidableEq, Repr

namespace PatternError

/-- The text of an error. -/
def message : PatternError → String
  | unreadable => "error building NFA"
  | wordBoundary =>
    "unsupported regex feature for DFAs: cannot build DFAs for regexes with Unicode word " ++
      "boundaries; switch to ASCII word boundaries, or heuristically enable Unicode word " ++
      "boundaries or use a different regex engine"

end PatternError

namespace Pattern

/-- A part of a pattern by its depth; a change of settings cannot be repeated. -/
structure Piece where
  depth : Nat
  isChange : Bool
deriving DecidableEq, Repr

/-- Alternatives: the depths of those that are complete, and the pieces of the last one, the latest
first. -/
structure Branches where
  complete : List Nat
  pieces : List Piece
deriving DecidableEq, Repr

namespace Branches

/-- A single alternative without pieces. -/
def empty : Branches := ⟨[], []⟩

/-- One more piece. -/
def add (branches : Branches) (piece : Piece) : Branches :=
  { branches with pieces := piece :: branches.pieces }

/-- The depth of the last alternative. -/
def lastDepth (branches : Branches) : Nat := joint (branches.pieces.map (·.depth))

/-- The depth of all alternatives. -/
def depth (branches : Branches) : Nat := joint (branches.lastDepth :: branches.complete)

/-- Starts one more alternative. -/
def next (branches : Branches) : Branches := ⟨branches.lastDepth :: branches.complete, []⟩

/-- Repeats the last piece, if there is one that can be repeated. -/
def repeatLast? (branches : Branches) : Option Branches :=
  match branches.pieces with
  | [] => none
  | last :: pieces =>
    if last.isChange then none
    else some { branches with pieces := ⟨last.depth + 1, false⟩ :: pieces }

end Branches

/-- What has been read of a pattern. -/
structure Reading where
  settings : Settings
  /-- The names of groups. -/
  names : List (List Char)
  /-- The alternatives of the innermost open group. -/
  branches : Branches
  /-- The settings and the alternatives around each open group, the innermost first. -/
  outer : List (Settings × Branches)
  /-- Whether a boundary of words of characters is asked for. -/
  hasBoundary : Bool
deriving DecidableEq, Repr

namespace Reading

/-- Nothing has been read. -/
def start : Reading := ⟨.initial, [], .empty, [], false⟩

/-- One more piece. -/
def add (reading : Reading) (depth : Nat) : Reading :=
  { reading with branches := reading.branches.add ⟨depth, false⟩ }

/-- Opens a group with settings of its own. -/
def enter (reading : Reading) (settings : Settings) : Reading :=
  { reading with
    settings := settings
    branches := .empty
    outer := (reading.settings, reading.branches) :: reading.outer }

/-- Closes the innermost group, if one is open. -/
def close? (reading : Reading) : Option Reading :=
  match reading.outer with
  | [] => none
  | (settings, branches) :: outer =>
    let group : Piece := ⟨reading.branches.depth + 1, false⟩
    some { reading with settings := settings, branches := branches.add group, outer := outer }

/-- Adds an atom. -/
def addAtom? (reading : Reading) (atom : Atom) : Option Reading :=
  if atom.isKnown reading.settings then
    let asks := atom = .wordBoundary && reading.settings.aboutCharacters
    some { reading.add 0 with hasBoundary := reading.hasBoundary || asks }
  else none

end Reading

/-- Whether a text is the name of a group: an underscore or a letter, and further ones, numbers,
points and brackets. -/
def isGroupName : List Char → Bool
  | [] => false
  | first :: rest =>
    (first = '_' || Text.isAlphabetic first) &&
      rest.all fun c => ['_', '.', '[', ']'].contains c || Text.isAlphanumeric c

/-- Opens the group whose name stands in front of an angle. -/
def openNamed? (reading : Reading) (text : List Char) : Option (Reading × List Char) :=
  let name := text.takeWhile (· ≠ '>')
  match text.dropWhile (· ≠ '>') with
  | _ :: rest =>
    if isGroupName name && !reading.names.contains name then
      some ({ reading.enter reading.settings with names := name :: reading.names }, rest)
    else none
  | [] => none

/-- Changes settings, from here on if a parenthesis follows and for a group if a colon does. -/
def changeSettings? (reading : Reading) (text : List Char) : Option (Reading × List Char) :=
  let inChange (c : Char) : Bool := c ≠ ':' && c ≠ ')'
  let change := text.takeWhile inChange
  let settings := reading.settings.change change
  if !Settings.isChange change then none
  else
    match text.dropWhile inChange with
    | ':' :: rest => some (reading.enter settings, rest)
    | ')' :: rest =>
      if change = [] then none
      else
        let branches := reading.branches.add ⟨0, true⟩
        some ({ reading with settings := settings, branches := branches }, rest)
    | _ => none

/-- Reads what follows an opening parenthesis. -/
def openGroup? (reading : Reading) (text : List Char) : Option (Reading × List Char) :=
  match reading.settings.skip text with
  | '?' :: '=' :: _ | '?' :: '!' :: _ | '?' :: '<' :: '=' :: _ | '?' :: '<' :: '!' :: _ => none
  | '?' :: 'P' :: '<' :: rest | '?' :: '<' :: rest => openNamed? reading rest
  | '?' :: rest => changeSettings? reading rest
  | rest => some (reading.enter reading.settings, rest)

/-- A text without the question mark that makes a repetition match as little as it can. -/
def dropLazy : List Char → List Char
  | '?' :: rest => rest
  | text => text

/-- Reads what is next in a pattern. -/
def Reading.step (reading : Reading) : List Char → Option (Reading × List Char)
  | [] => none
  | '(' :: rest => openGroup? reading rest
  | ')' :: rest => reading.close?.map fun next => (next, rest)
  | '|' :: rest => some ({ reading with branches := reading.branches.next }, rest)
  | '[' :: rest =>
    (readSet reading.settings rest).map fun (depth, after) => (reading.add depth, after)
  | '?' :: rest | '*' :: rest | '+' :: rest =>
    reading.branches.repeatLast?.map fun branches =>
      ({ reading with branches := branches }, dropLazy rest)
  | '\x7b' :: _ => none
  | '.' :: rest => if reading.settings.aboutCharacters then some (reading.add 0, rest) else none
  | '^' :: rest | '$' :: rest => some (reading.add 0, rest)
  | text =>
    match readAtom reading.settings text with
    | none => none
    | some (atom, rest) => (reading.addAtom? atom).map fun next => (next, rest)

/-- Reads a pattern to its end. -/
def Reading.run (reading : Reading) (text : List Char) : Option Reading :=
  match reading.settings.skip text with
  | [] => some reading
  | next :: more =>
    match reading.step (next :: more) with
    | none => none
    | some (reading, rest) => if rest.length < text.length then reading.run rest else none
termination_by text.length

/-- How deep a pattern may be nested. -/
def depthLimit : Nat := 250

/-- Judges a text as a pattern. -/
def check (text : String) : Except PatternError Unit :=
  match Reading.start.run text.toList with
  | none => .error .unreadable
  | some reading =>
    if !reading.outer.isEmpty || reading.branches.depth > depthLimit then .error .unreadable
    else if reading.hasBoundary then .error .wordBoundary
    else .ok ()

end Pattern

end CallTrace
