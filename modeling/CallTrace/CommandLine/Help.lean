import CallTrace.Text.Terminal

/-!
# Help

What the command line tells about itself on request.  The longer help has the same arguments with
more room for each; both show the option string that the environment holds.  Heads and names are
emphasized.
-/

namespace CallTrace.CommandLine

open Text (emphasized)

/-- The name and the version of the program. -/
def versionText : String := "libtrace 0.1.0\n"

/-- A text whose further lines stand in the column of the first one. -/
def hanging (column : Nat) (text : String) : String :=
  String.ofList (text.toList.flatMap fun c =>
    if c = '\n' then '\n' :: List.replicate column ' ' else [c])

/-- What both helps begin with. -/
def introduction : String :=
  "Library call tracer: shows which exported entry points a tracing session wraps\n\n" ++
  emphasized "Usage:" ++ " " ++ emphasized "libtrace" ++ " [OPTIONS]\n\n" ++
  emphasized "Options:" ++ "\n"

/-- An argument with a letter and a name. -/
def withLetter (letter name : String) : String := "  " ++ emphasized letter ++ ", " ++ emphasized name

/-- An argument with a name only. -/
def withoutLetter (name : String) : String := "      " ++ emphasized name

/-- The help with one line per argument. -/
def shortHelp (environment : String) : String :=
  introduction ++
  withLetter "-p" "--pid" ++ " <PID>          Process to snapshot (defaults to libtrace itself)\n" ++
  withLetter "-o" "--options" ++
  " <OPTIONS>  Tracer option string, e.g. \"-only_from_app -verbose 1\"" ++
  " [env: LIBTRACE_OPTIONS=" ++ hanging 27 environment ++ "] [default: \"\"]\n" ++
  withoutLetter "--format" ++ " <FORMAT>    Output format (text or json) [default: text]" ++
  " [possible values: text, json]\n" ++
  withoutLetter "--debug" ++
  "              Enable full diagnostic output regardless of -verbose\n" ++
  withLetter "-h" "--help" ++ "               Print help (see more with '--help')\n" ++
  withLetter "-V" "--version" ++ "            Print version\n"

/-- The help with a paragraph per argument. -/
def longHelp (environment : String) : String :=
  introduction ++
  withLetter "-p" "--pid" ++ " <PID>\n" ++
  "          Process to snapshot (defaults to libtrace itself)\n\n" ++
  withLetter "-o" "--options" ++ " <OPTIONS>\n" ++
  "          Tracer option string, e.g. \"-only_from_app -verbose 1\"\n" ++
  "          \n" ++
  "          [env: LIBTRACE_OPTIONS=" ++ hanging 10 environment ++ "]\n" ++
  "          [default: \"\"]\n\n" ++
  withoutLetter "--format" ++ " <FORMAT>\n" ++
  "          Output format (text or json)\n\n" ++
  "          Possible values:\n" ++
  "          - " ++ emphasized "text" ++
  ": One `module!symbol @addr` line per registration (default)\n" ++
  "          - " ++ emphasized "json" ++ ": JSON document for machine parsing\n" ++
  "          \n" ++
  "          [default: text]\n\n" ++
  withoutLetter "--debug" ++ "\n" ++
  "          Enable full diagnostic output regardless of -verbose\n\n" ++
  withLetter "-h" "--help" ++ "\n" ++
  "          Print help (see a summary with '-h')\n\n" ++
  withLetter "-V" "--version" ++ "\n" ++
  "          Print version\n"

end CallTrace.CommandLine
