import CallTrace.Notice
import CallTrace.Options.Token
import CallTrace.Text.Escaped
import CallTrace.Text.Numeral

/-!
# Tracer options

The options of a session, as a string in the form `-only_from_app -verbose 2 -logdir "/tmp/my logs"`.
Reading is strict: the first token that is no option ends it with an error, and no bad value is
replaced by a default.  An option may be repeated; the last value counts.
-/

namespace CallTrace

/-- What is wrong with an option string. -/
inductive ConfigError where
  | unrecognizedOption (token : String)
  | missingLogDirectory
  | missingVerbosity
  | invalidVerbosity (value : String)
  | unterminatedQuote (options : String)
deriving DecidableEq, Repr

/-- The text of an option error. -/
def ConfigError.message : ConfigError → String
  | unrecognizedOption token => "invalid option: " ++ token
  | missingLogDirectory => "missing logdir path after -logdir"
  | missingVerbosity => "missing -verbose number after -verbose"
  | invalidVerbosity value => "invalid -verbose number: " ++ Text.quoted value
  | unterminatedQuote options => "unterminated quote in option string: " ++ options

/-- The notices in front of an option error: only an unknown option is told of. -/
def ConfigError.notices : ConfigError → List Notice
  | unrecognizedOption token => [.unrecognizedOption token]
  | missingLogDirectory | missingVerbosity | invalidVerbosity _ | unterminatedQuote _ => []

/-- The options of a session. -/
structure Options where
  /-- A directory for logs; the trace itself does not use it. -/
  logDirectory : Option String
  /-- Whether only calls made by the main executable are shown. -/
  onlyFromApp : Bool
  /-- How much the tracer tells about itself. -/
  verbose : UInt32
deriving DecidableEq, Repr

namespace Options

/-- What holds when no option is given. -/
def defaults : Options := ⟨none, false, 0⟩

/-- A verbosity: a decimal number of 32 bits. -/
def verbosity? (value : String) : Option UInt32 :=
  (Numeral.read? 10 UInt32.size value.toList).map UInt32.ofNat

/-- Reads tokens on top of the options read so far.  Besides the result there are the notices of
the reading: the first token that is no option is told of before it is refused. -/
def readTokens (options : Options) : List String → Except ConfigError Options × List Notice
  | [] => (.ok options, [])
  | "-only_from_app" :: rest => readTokens { options with onlyFromApp := true } rest
  | ["-logdir"] => (.error .missingLogDirectory, [])
  | "-logdir" :: path :: rest => readTokens { options with logDirectory := some path } rest
  | ["-verbose"] => (.error .missingVerbosity, [])
  | "-verbose" :: value :: rest =>
    match verbosity? value with
    | none => (.error (.invalidVerbosity value), [])
    | some n => readTokens { options with verbose := n } rest
  | token :: _ => (.error (.unrecognizedOption token), [.unrecognizedOption token])

/-- Options from a list of tokens. -/
def ofTokens (tokens : List String) : Except ConfigError Options := (readTokens defaults tokens).1

/-- The notices of reading a list of tokens. -/
def told (tokens : List String) : List Notice := (readTokens defaults tokens).2

/-- The tokens of an option string. -/
def tokenize (text : String) : Except ConfigError (List String) :=
  match tokens? text.toList with
  | none => .error (.unterminatedQuote text)
  | some tokens => .ok (tokens.map String.ofList)

/-- Reads an option string; a quote that is never closed is refused without a notice. -/
def read (text : String) : Except ConfigError Options × List Notice :=
  match tokenize text with
  | .error cause => (.error cause, [])
  | .ok tokens => readTokens defaults tokens

/-- Options from an option string. -/
def parse (text : String) : Except ConfigError Options := (read text).1

theorem parse_of_tokenize_eq_error {text : String} {cause : ConfigError}
    (h : tokenize text = .error cause) : parse text = .error cause := by
  rw [parse, read, h]

theorem parse_of_tokenize_eq_ok {text : String} {tokens : List String}
    (h : tokenize text = .ok tokens) : parse text = ofTokens tokens := by
  rw [parse, read, h]
  rfl

end Options

end CallTrace
