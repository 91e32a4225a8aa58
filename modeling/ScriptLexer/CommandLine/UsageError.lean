import ScriptLexer.CommandLine.Options
import ScriptLexer.Text.Terminal

/-!
# Usage errors

The ways in which a command line can be wrong, and the one line that is said about each.
-/

namespace ScriptLexer.CommandLine

/-- What is wrong with a command line. -/
inductive UsageError where
  /-- An argument is not known, or is a second input. -/
  | unexpectedArgument (argument : String)
  /-- An argument that takes no value was given one. -/
  | unexpectedValue (value argument : String)
  /-- A parameter was given more than once. -/
  | repeatedParameter (p : Parameter)
  /-- A switch was given more than once. -/
  | repeatedSwitch (s : Switch)
  /-- A parameter has no value, or an empty one. -/
  | missingValue (p : Parameter)
  /-- A value is no level. -/
  | invalidLevel (value : String)
  /-- A value is no format. -/
  | invalidFormat (value : String)
  deriving DecidableEq

namespace UsageError

/-- A text from the command line as it is shown to the user, in quotes and without what a
terminal would obey. -/
def quote (text : String) : String :=
  "'" ++ Text.Terminal.strip text ++ "'"

/-- The words for a usage error. -/
def text : UsageError → String
  | unexpectedArgument argument => "unexpected argument " ++ quote argument ++ " found"
  | unexpectedValue value argument =>
    "unexpected value " ++ quote value ++ " for '" ++ argument ++
      "' found; no more were expected"
  | repeatedParameter p => "the argument '" ++ p.usage ++ "' cannot be used multiple times"
  | repeatedSwitch s => "the argument '" ++ s.usage ++ "' cannot be used multiple times"
  | missingValue p => "a value is required for '" ++ p.usage ++ "' but none was supplied"
  | invalidLevel value =>
    "invalid value " ++ quote value ++ " for '" ++ Parameter.logLevel.usage ++
      "': error parsing level: expected one of \"error\", \"warn\", \"info\", \"debug\", " ++
      "\"trace\", or a number 1-5"
  | invalidFormat value =>
    "invalid value " ++ quote value ++ " for '" ++ Parameter.logFormat.usage ++ "'"

/-- The first line of a text. A line feed ends it, together with a carriage return before it. -/
def firstLine (text : List Char) : List Char :=
  let line := text.takeWhile (· != '\n')
  if line.length < text.length ∧ line.getLast? = some '\r' then line.dropLast else line

/-- The one line that is said about a usage error. -/
def message (e : UsageError) : String :=
  String.ofList (firstLine ("error: " ++ e.text).toList)

end UsageError

end ScriptLexer.CommandLine
