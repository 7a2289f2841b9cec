import CallTrace.Text.Numeral

/-!
# Texts on a terminal

Some characters do not show on a terminal but steer it.  Messages about the command line are shown
without them: an escape character hides the sequence that it opens, and controls other than moves
to another place are dropped.  A move shows even inside a sequence; what becomes of the sequence
behind it is up to the way in which the text is written.

In notices the characters that steer a terminal are shown by their codes instead.
-/

namespace CallTrace.Text

/-- What a terminal expects next. -/
inductive TerminalState where
  /-- Characters to show. -/
  | plain
  /-- The character behind an escape. -/
  | escape
  /-- The last character of an escape sequence. -/
  | short
  /-- The last character of a sequence with parameters. -/
  | control
  /-- The first character of a device command. -/
  | device
  /-- A parameter of a device command, or the character behind all of them. -/
  | deviceParameter
  /-- The character behind the name of a device command. -/
  | deviceName
  /-- A command for the system, which a bell ends too. -/
  | command
  /-- Another text that is not for the reader. -/
  | hidden
deriving DecidableEq, Repr

/-- A control that moves on without showing: tab, line feed, form feed, carriage return. -/
def isMove (c : Char) : Bool := c = '\t' || c = '\n' || c = '\x0c' || c = '\r'

/-- Whether a character ends any sequence at once. -/
def cancels (c : Char) : Bool := c = '\x18' || c = '\x1a'

/-- Whether a character ends a hidden text: one of its bytes is the one by which terminals of
eight bits end such texts. -/
def endsHidden (c : Char) : Bool := (String.utf8EncodeChar c).contains 0x9c

namespace TerminalState

/-- What follows a character of ASCII that is no control. -/
def afterMark (state : TerminalState) (c : Char) : TerminalState :=
  match state with
  | .plain | .hidden | .command => state
  | .escape =>
    if c = '[' then .control
    else if c = ']' then .command
    else if c = 'P' then .device
    else if c = 'X' || c = '^' || c = '_' then .hidden
    else if c ≤ '/' then .short
    else .plain
  | .short => if c ≤ '/' then .short else .plain
  | .control => if c ≤ '?' then .control else .plain
  | .device => if c ≤ '/' then .deviceName else if c ≤ '?' then .deviceParameter else .hidden
  | .deviceParameter =>
    if c ≤ '/' then .deviceName else if c ≤ ';' then .deviceParameter else .hidden
  | .deviceName => if c ≤ '/' then .deviceName else .hidden

/-- How a terminal goes on from a character, and whether it shows the character.  A move that is
shown inside a sequence leaves the sequence where it was. -/
def step (state : TerminalState) (c : Char) : TerminalState × Bool :=
  if c = '\x1b' then (.escape, false)
  else if cancels c then (.plain, false)
  else if 0x80 ≤ c.toNat then
    match state with
    | .plain => (.plain, true)
    | .hidden => (if endsHidden c then .plain else .hidden, false)
    | _ => (state, false)
  else if c.toNat < 0x20 || c = '\x7f' then
    match state with
    | .plain | .escape | .short | .control => (state, isMove c)
    | .command => (if c = '\x07' then .plain else .command, false)
    | _ => (state, false)
  else (state.afterMark c, state = .plain)

/-- The state behind a shown character outside of sequences: characters beyond ASCII make a
terminal forget a sequence that it has interrupted. -/
def behindShown (state : TerminalState) (c : Char) : TerminalState :=
  if c.toNat < 0x80 then state else .plain

end TerminalState

/-- What becomes of a sequence with a move inside it. -/
inductive Interruption where
  /-- It is given up: what follows the move is shown like any text. -/
  | ends
  /-- It is put off: text is shown behind the move until a control comes, which the sequence takes
  as its next character. -/
  | postpones
deriving DecidableEq, Repr

/-- The characters that a terminal shows from a state on; `showing` tells that an interrupted
sequence waits in that state. -/
def visibleFrom (interruption : Interruption) :
    (state : TerminalState) → (showing : Bool) → List Char → List Char
  | _, _, [] => []
  | state, showing, c :: rest =>
    if showing && (TerminalState.plain.step c).2 then
      c :: visibleFrom interruption (state.behindShown c) true rest
    else
      match state.step c with
      | (next, false) => visibleFrom interruption next false rest
      | (next, true) =>
        let kept := if interruption = .ends then .plain else next
        c :: visibleFrom interruption kept true rest

/-- A text without what only steers a terminal. -/
def visible (interruption : Interruption) (text : String) : String :=
  String.ofList (visibleFrom interruption .plain false text.toList)

/-- A text that stands out: between the sequences that switch a style on and off.  The second one
also ends whatever sequence the text itself leaves open. -/
def emphasized (text : String) : String := "\x1b[1m" ++ text ++ "\x1b[0m"

/-- One character of a notice. -/
def codeChar (c : Char) : List Char :=
  match c with
  | '\x07' => ['\\', 'x', '0', '7']
  | '\x08' => ['\\', 'x', '0', '8']
  | '\x0c' => ['\\', 'x', '0', 'c']
  | '\x1b' => ['\\', 'x', '1', 'b']
  | '\x7f' => ['\\', 'x', '7', 'f']
  | _ =>
    if 0x80 ≤ c.toNat ∧ c.toNat ≤ 0x9f then
      ['\\', 'u', '\x7b'] ++ Numeral.write 16 c.toNat ++ ['\x7d']
    else [c]

/-- A text with the characters that steer a terminal shown by their codes. -/
def coded (text : String) : String := String.ofList (text.toList.flatMap codeChar)

end CallTrace.Text
