import ScriptLexer.CommandLine.Help
import ScriptLexer.CommandLine.Reading
import ScriptLexer.Log.Format
import ScriptLexer.Transfer

/-!
# The program

From the command line to the exit status: the listing goes where the options say, and the
standard error shows the log, then what went wrong or what was counted and found malformed.
A run fails with status 2 if the command line is wrong or a file cannot be read or written, and
with status 1 if it is strict and its script has malformed lexemes.

## Main results

* `run_of_usageError` — a wrong command line touches nothing.
-/

namespace ScriptLexer

open CommandLine (Options UsageError)
open Files (Action Workspace)
open Log (Filter Journal Level)

namespace Program

/-- How a run of the program ends. -/
structure Outcome where
  /-- The exit status. -/
  exit : Nat
  /-- The text on the standard error. -/
  standardError : String
  deriving DecidableEq

/-- The filter of the log: the one that is set, if it can be read, else the level of the
options. -/
def logFilter (level : Level) (setting? : Option String) : Filter :=
  (setting?.bind Filter.parse?).getD (.ofLevel level)

/-- The line that counts tokens and malformed lexemes. -/
def countLine (tokens : List Token) : String :=
  toString tokens.length ++ " tokens, " ++ toString (Token.errors tokens).length ++
    " malformed\n"

/-- The line that reports a malformed lexeme. -/
def malformedLine (t : Token) : String :=
  "line " ++ toString t.line ++ ": malformed lexeme " ++ Text.Quoted.encode t.lexeme ++ "\n"

/-- What is said about the tokens of a script: the counts if they are asked for, and in a strict
run the malformed lexemes. -/
def report (o : Options) (tokens : List Token) : String :=
  (if o.summary then countLine tokens else "") ++
    (if o.strict then String.join ((Token.errors tokens).map malformedLine) else "")

/-- The exit status of a run that has written its listing. -/
def status (o : Options) (tokens : List Token) : Nat :=
  if o.strict ∧ Token.errors tokens ≠ [] then 1 else 0

/-- What is said about a transfer that failed. -/
def failureLine (e : TransferError) : String :=
  "Error: " ++ e.message ++ "\n"

/-- How a run ends, from what its transfer came to and the journal that it left. -/
def conclude (o : Options) : Except TransferError (List Token) × Journal → Outcome
  | (.ok tokens, log) =>
    ⟨status o tokens, o.logFormat.render log.entries.toList ++ report o tokens⟩
  | (.error e, log) =>
    let log := log.event (.failed e.message)
    ⟨2, o.logFormat.render log.entries.toList ++ failureLine e⟩

/-- Carries out what the options say. -/
def transfer (o : Options) (setting? : Option String) : Action Outcome := do
  let journal := Journal.ofFilter (logFilter o.logLevel setting?)
  return conclude o (← Transfer.run o.input o.output journal)

/-- Runs the program with arguments and, if one is set, the text of a log filter. -/
def run (arguments : List String) (setting? : Option String) : Action Outcome :=
  match CommandLine.parse arguments with
  | .error e => .done ⟨2, e.message⟩
  | .ok .help => .print CommandLine.Help.short (.done ⟨0, ""⟩)
  | .ok .fullHelp => .print CommandLine.Help.full (.done ⟨0, ""⟩)
  | .ok .version => .print CommandLine.Help.version (.done ⟨0, ""⟩)
  | .ok (.run o) => transfer o setting?

/-! ### Laws -/

/-- A wrong command line touches nothing. -/
theorem run_of_usageError {arguments : List String} {e : UsageError}
    (h : CommandLine.parse arguments = .error e) (setting? : Option String) (w : Workspace) :
    (run arguments setting?).on w = (⟨2, e.message⟩, w) := by
  unfold run
  rw [h]
  rfl

/-- The outcome of a run with options is concluded from its transfer. -/
theorem transfer_on (o : Options) (setting? : Option String) (w : Workspace) :
    (transfer o setting?).on w =
      let done := (Transfer.run o.input o.output
        (Journal.ofFilter (logFilter o.logLevel setting?))).on w
      (conclude o done.1, done.2) := by
  unfold transfer
  rw [Action.on_bind]
  rfl

end Program

end ScriptLexer
