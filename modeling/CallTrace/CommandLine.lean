import CallTrace.CommandLine.Argument
import CallTrace.CommandLine.Help
import CallTrace.Text.Signed

/-!
# The command line

Arguments are read from left to right.  An argument that takes a value has it behind an equals
sign, behind its letter, or in the next word; a word that looks like an argument is no value, except
for the option string, which takes any word.  Nothing else is allowed, and no argument twice.

Reading stops at the first defect and at a request for help or the version.  A value in a word of
its own is judged when the next argument is met or the line ends, so that an unknown word behind it
is reported first.  The option string may also come from the environment, if the line has none.
-/

namespace CallTrace

/-- How a plan is shown. -/
inductive OutputFormat where
  | text
  | json
deriving DecidableEq, Repr

/-- What is wrong with a command line. -/
inductive UsageError where
  | unexpectedArgument (text : String)
  | unexpectedValue (argument : Argument) (value : String)
  | missingValue (argument : Argument)
  | repeated (argument : Argument)
  | invalidPid (value : String) (cause : Numeral.SignedError)
  | invalidFormat (value : String)
deriving DecidableEq, Repr

/-- The text of a usage error, with what it is about emphasized. -/
def UsageError.message (error : UsageError) : String :=
  Text.emphasized "error:" ++ " " ++
    match error with
    | unexpectedArgument text => "unexpected argument '" ++ Text.emphasized text ++ "' found"
    | unexpectedValue argument value =>
      "unexpected value '" ++ Text.emphasized value ++ "' for '" ++
        Text.emphasized argument.usage ++ "' found; no more were expected"
    | missingValue argument =>
      "a value is required for '" ++ Text.emphasized argument.usage ++ "' but none was supplied"
    | repeated argument =>
      "the argument '" ++ Text.emphasized argument.usage ++ "' cannot be used multiple times"
    | invalidPid value cause =>
      "invalid value '" ++ Text.emphasized value ++ "' for '" ++
        Text.emphasized Argument.pid.usage ++ "': " ++ cause.message
    | invalidFormat value =>
      "invalid value '" ++ Text.emphasized value ++ "' for '" ++
        Text.emphasized Argument.format.usage ++ "'"

/-- Why a command line does not lead to a run of the tracer. -/
inductive Halt where
  | usage (cause : UsageError)
  | shortHelp
  | longHelp
  | version
deriving DecidableEq, Repr

/-- What a command line asks for. -/
structure CommandLine where
  /-- The process to look at; the tracer itself if none is given. -/
  pid : Option Int
  /-- The option string of the session. -/
  options : String
  format : OutputFormat
  /-- Whether all notices are shown, whatever the option string says. -/
  debug : Bool
deriving DecidableEq, Repr

namespace CommandLine

/-- What has been read of a command line. -/
structure Progress where
  pid : Option Int
  options : Option String
  format : Option OutputFormat
  debug : Bool
  /-- An argument whose value has not been judged, with the value if it is there. -/
  pending : Option (Argument × Option String)
deriving DecidableEq, Repr

namespace Progress

/-- Nothing has been read. -/
def start : Progress := ⟨none, none, none, false, none⟩

/-- The argument that the next word may be a value of. -/
def awaiting (progress : Progress) : Option Argument :=
  match progress.pending with
  | some (argument, none) => some argument
  | _ => none

/-- Whether the next word is a value, whatever it looks like. -/
def awaitsAnything (progress : Progress) : Bool := progress.awaiting.any (·.takesAnything)

end Progress

/-- The smallest and the largest process number. -/
def pidRange : Int × Int := (-2147483648, 2147483647)

/-- Takes the value of an argument. -/
def takeValue (progress : Progress) (argument : Argument) (value : String) :
    Except Halt Progress :=
  match argument with
  | .pid =>
    if progress.pid.isSome then .error (.usage (.repeated .pid))
    else
      match Numeral.readSigned pidRange.1 pidRange.2 value with
      | .error cause => .error (.usage (.invalidPid value cause))
      | .ok pid => .ok { progress with pid := some pid }
  | .options =>
    if progress.options.isSome then .error (.usage (.repeated .options))
    else .ok { progress with options := some value }
  | .format =>
    if progress.format.isSome then .error (.usage (.repeated .format))
    else
      match value with
      | "text" => .ok { progress with format := some .text }
      | "json" => .ok { progress with format := some .json }
      | "" => .error (.usage (.missingValue .format))
      | _ => .error (.usage (.invalidFormat value))
  | .debug | .help | .version => .ok progress

/-- Judges the value that is pending. -/
def settle (progress : Progress) : Except Halt Progress :=
  match progress.pending with
  | none => .ok progress
  | some (argument, none) => .error (.usage (.missingValue argument))
  | some (argument, some value) => takeValue { progress with pending := none } argument value

/-- Meets an argument without a value; `byName` tells a long name from a letter. -/
def takeFlag (progress : Progress) (argument : Argument) (byName : Bool) :
    Except Halt Progress := do
  let progress ← settle progress
  match argument with
  | .help => throw (if byName then .longHelp else .shortHelp)
  | .version => throw .version
  | .debug => if progress.debug then throw (.usage (.repeated .debug)) else
    return { progress with debug := true }
  | .pid | .options | .format => return progress

/-- Meets an argument that takes a value, with the value if it is attached. -/
def takeArgument (progress : Progress) (argument : Argument) (attached : Option String) :
    Except Halt Progress := do
  let progress ← settle progress
  match attached with
  | some value => takeValue progress argument value
  | none => return { progress with pending := some (argument, none) }

/-- A word that is neither an argument nor the value of one. -/
def unexpected (text : String) : Except Halt Progress := .error (.usage (.unexpectedArgument text))

/-- Reads a word behind two dashes: a name, with a value behind an equals sign. -/
def readName (progress : Progress) (word : List Char) : Except Halt Progress :=
  let name := String.ofList (word.takeWhile (· ≠ '='))
  let attached : Option String :=
    match word.dropWhile (· ≠ '=') with
    | [] => none
    | _ :: value => some (String.ofList value)
  match Argument.ofName? name with
  | none => unexpected ("--" ++ name)
  | some argument =>
    if argument.takesValue then takeArgument progress argument attached
    else
      match attached with
      | some value => .error (.usage (.unexpectedValue argument value))
      | none => takeFlag progress argument true

/-- The value that follows a letter in its word; an equals sign in front of it does not count. -/
def attachedToLetter : List Char → Option String
  | [] => none
  | '=' :: value => some (String.ofList value)
  | value => some (String.ofList value)

/-- Reads a word behind one dash: letters, and behind a letter that takes a value the value. -/
def readLetters (progress : Progress) : List Char → Except Halt Progress
  | [] => .ok progress
  | letter :: rest =>
    match Argument.ofLetter? letter with
    | none => unexpected ("-" ++ String.singleton letter)
    | some argument =>
      if argument.takesValue then takeArgument progress argument (attachedToLetter rest)
      else
        match takeFlag progress argument false with
        | .error halt => .error halt
        | .ok progress => readLetters progress rest

/-- Reads a word that does not look like an argument. -/
def readPlain (progress : Progress) (word : String) : Except Halt Progress :=
  match progress.awaiting with
  | some argument => .ok { progress with pending := some (argument, some word) }
  | none => unexpected word

/-- Reads one word. -/
def readWord (progress : Progress) (word : String) : Except Halt Progress :=
  if progress.awaitsAnything then readPlain progress word
  else
    match word.toList with
    | '-' :: '-' :: rest => readName progress rest
    | '-' :: letter :: rest => readLetters progress (letter :: rest)
    | _ => readPlain progress word

/-- Reads all words.  Behind a word of two dashes, unless it is a value, no word is expected. -/
def readWords (progress : Progress) : List String → Except Halt Progress
  | [] => settle progress
  | "--" :: rest =>
    if progress.awaitsAnything then
      match readPlain progress "--" with
      | .error halt => .error halt
      | .ok progress => readWords progress rest
    else
      match rest with
      | [] => settle progress
      | word :: _ => unexpected word
  | word :: rest =>
    match readWord progress word with
    | .error halt => .error halt
    | .ok progress => readWords progress rest

/-- Reads a command line; `environment` is the option string of the environment, if it has one. -/
def parse (words : List String) (environment : Option String) : Except Halt CommandLine := do
  let progress ← readWords Progress.start words
  return {
    pid := progress.pid
    options := progress.options.getD (environment.getD "")
    format := progress.format.getD .text
    debug := progress.debug }

end CommandLine

end CallTrace
