import ScriptLexer.Log.Format

/-!
# Options

What a run of the program can be told on its command line, and what it does when told nothing.
-/

namespace ScriptLexer.CommandLine

open Log (Level Format)

/-- What a run is asked to do. -/
structure Options where
  /-- The path of the script. -/
  input : String
  /-- The path of the listing. -/
  output : String
  /-- The least severe level that is logged, unless a filter is set. -/
  logLevel : Level
  /-- The way in which the log is written. -/
  logFormat : Format
  /-- Whether the tokens and malformed lexemes are counted on the standard error. -/
  summary : Bool
  /-- Whether malformed lexemes are reported and make the run fail. -/
  strict : Bool
  deriving DecidableEq

/-- What a run does that is told nothing. -/
def Options.default : Options :=
  ⟨"input.txt", "output.txt", .warn, .compact, false, false⟩

/-- A part of the options that has a value. -/
inductive Parameter where
  | input
  | output
  | logLevel
  | logFormat
  deriving DecidableEq

/-- The way a parameter is shown to the user. -/
def Parameter.usage : Parameter → String
  | input => "[INPUT]"
  | output => "--output <OUTPUT>"
  | logLevel => "--log-level <LEVEL>"
  | logFormat => "--log-format <FORMAT>"

/-- A part of the options that is either set or not. -/
inductive Switch where
  | summary
  | strict
  deriving DecidableEq

/-- The argument that sets a switch. -/
def Switch.usage : Switch → String
  | summary => "--summary"
  | strict => "--strict"

/-- What the command line asks for. -/
inductive Request where
  /-- A run with options. -/
  | run (options : Options)
  /-- A summary of the options. -/
  | help
  /-- All about the options. -/
  | fullHelp
  /-- The version of the program. -/
  | version
  deriving DecidableEq

end ScriptLexer.CommandLine
