import ScriptLexer.Log.Level
import ScriptLexer.Token

/-!
# Events

What a run reports about itself while it goes on. Each event has a level, the part of the
program that it comes from, a message and fields. The events of one scan lie inside a span that
carries the size of the script.
-/

namespace ScriptLexer.Log

/-- The part of the program that an event comes from. -/
inductive Target where
  /-- Cutting a script into tokens. -/
  | scanning
  /-- Reading a script and writing its listing. -/
  | transfer
  /-- The command line. -/
  | commandLine
  deriving DecidableEq

/-- The name of a part of the program in a log. -/
def Target.name : Target → String
  | .scanning => "rblex::lexer"
  | .transfer => "rblex::io"
  | .commandLine => "rblex::cli"

/-- The value of a field. -/
inductive Value where
  /-- A count or a line. -/
  | number (n : Nat)
  /-- A text that is written as it is. -/
  | plain (text : String)
  /-- A text that is written in quotes. -/
  | quoted (text : String)
  deriving DecidableEq

/-- Something that happened during a run. -/
inductive Event where
  /-- A token was cut. -/
  | token (t : Token)
  /-- A malformed lexeme was found. -/
  | malformed (line : Nat) (lexeme : String)
  /-- A scan came to the end of its script, at which the given number of tokens is held. -/
  | finished (tokens errors lines : Nat)
  /-- A listing was written. -/
  | wrote (input output : String) (tokens : Nat)
  /-- Reading or writing failed. -/
  | failed (message : String)
  deriving DecidableEq

namespace Event

/-- How severe an event is. -/
def level : Event → Level
  | token _ => .trace
  | malformed _ _ => .debug
  | finished _ _ _ => .debug
  | wrote _ _ _ => .info
  | failed _ => .error

/-- Where an event comes from. -/
def target : Event → Target
  | token _ => .scanning
  | malformed _ _ => .scanning
  | finished _ _ _ => .scanning
  | wrote _ _ _ => .transfer
  | failed _ => .commandLine

/-- What an event says. -/
def message : Event → String
  | token _ => "token"
  | malformed _ _ => "malformed lexeme"
  | finished _ _ _ => "tokenize finished"
  | wrote _ _ _ => "wrote tokens"
  | failed text => text

/-- The named values of an event, in the order in which they are written. -/
def fields : Event → List (String × Value)
  | token t =>
    [("kind", .plain t.kind.name), ("lexeme", .quoted t.lexeme), ("line", .number t.line)]
  | malformed line lexeme => [("line", .number line), ("lexeme", .quoted lexeme)]
  | finished tokens errors lines =>
    [("tokens", .number tokens), ("errors", .number errors), ("lines", .number lines)]
  | wrote input output tokens =>
    [("input", .plain input), ("output", .plain output), ("tokens", .number tokens)]
  | failed _ => []

end Event

/-- An entry of a log: the span of a scan is made, entered and left, and events happen. -/
inductive Entry where
  /-- The span of a scan is made; the script has the given number of bytes. -/
  | span (length : Nat)
  /-- The span is entered. -/
  | enter
  /-- The span is left. -/
  | exit
  /-- Something happened. -/
  | event (e : Event)
  deriving DecidableEq

namespace Entry

/-- The name of the span around a scan. -/
def spanName : String :=
  "tokenize_all"

/-- How severe an entry is; a span is a matter of debugging. -/
def level : Entry → Level
  | event e => e.level
  | _ => .debug

/-- Where an entry comes from. -/
def target : Entry → Target
  | event e => e.target
  | _ => .scanning

end Entry

end ScriptLexer.Log
