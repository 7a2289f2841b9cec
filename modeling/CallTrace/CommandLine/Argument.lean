/-!
# Arguments

The arguments that the command line knows.  Each has a long name, most have a letter too, and some
take a value.
-/

namespace CallTrace

/-- An argument of the command line. -/
inductive Argument where
  | pid
  | options
  | format
  | debug
  | help
  | version
deriving DecidableEq, Repr

namespace Argument

/-- The argument of a long name. -/
def ofName? (name : String) : Option Argument :=
  match name with
  | "pid" => some pid
  | "options" => some options
  | "format" => some format
  | "debug" => some debug
  | "help" => some help
  | "version" => some version
  | _ => none

/-- The argument of a letter. -/
def ofLetter? (letter : Char) : Option Argument :=
  match letter with
  | 'p' => some pid
  | 'o' => some options
  | 'h' => some help
  | 'V' => some version
  | _ => none

/-- Whether an argument takes a value. -/
def takesValue : Argument → Bool
  | pid | options | format => true
  | debug | help | version => false

/-- Whether everything behind the argument is its value, also what looks like an argument. -/
def takesAnything : Argument → Bool
  | options => true
  | pid | format | debug | help | version => false

/-- An argument as messages name it. -/
def usage : Argument → String
  | pid => "--pid <PID>"
  | options => "--options <OPTIONS>"
  | format => "--format <FORMAT>"
  | debug => "--debug"
  | help => "--help"
  | version => "--version"

end Argument

end CallTrace
