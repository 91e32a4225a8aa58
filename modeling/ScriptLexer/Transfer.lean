import ScriptLexer.Files.Action
import ScriptLexer.Session

/-!
# Transfers

Reading a script from a file, writing its listing to another, and both in one go. The output
path `-` stands for the standard output; for reading it is a file like any other.

## Main results

* `readSource_on` — reading changes nothing.
* `run_on` — a transfer is reading, cutting into tokens and writing, in this order.
-/

namespace ScriptLexer

open Files (Action Fault Workspace)
open Log (Journal)

/-- Which half of a transfer failed, at which path and why. -/
inductive TransferError where
  | readInput (path : String) (cause : Fault)
  | writeOutput (path : String) (cause : Fault)
  deriving DecidableEq

namespace TransferError

/-- The path at which a transfer failed. -/
def path : TransferError → String
  | readInput path _ => path
  | writeOutput path _ => path

/-- Why a transfer failed. -/
def cause : TransferError → Fault
  | readInput _ cause => cause
  | writeOutput _ cause => cause

/-- The words for a failed transfer. -/
def message : TransferError → String
  | readInput path cause => "failed to read input file " ++ path ++ ": " ++ cause.message
  | writeOutput path cause => "failed to write output " ++ path ++ ": " ++ cause.message

end TransferError

namespace Transfer

/-- The text of a script from what came of reading its file. -/
def decode (path : String) : Except Fault ByteArray → Except TransferError String
  | .error cause => .error (.readInput path cause)
  | .ok content =>
    match String.fromUTF8? content with
    | some text => .ok text
    | none => .error (.readInput path .notText)

/-- Reads a script. -/
def readSource (path : String) : Action (Except TransferError String) :=
  .read path fun result => .done (decode path result)

/-- Writes a text to a file, or prints it if the path is `-`. -/
def writeRendered (path text : String) : Action (Except TransferError Unit) :=
  if Files.Path.isDash path then .print text (.done (.ok ()))
  else .write path text.toUTF8 fun result => .done (result.mapError (.writeOutput path))

/-- Reads a script, writes its listing and tells its tokens. -/
def run (input output : String) (log : Journal) :
    Action (Except TransferError (List Token) × Journal) := do
  match ← readSource input with
  | .error e => return (.error e, log)
  | .ok source =>
    let (tokens, log) := tokenizeInto log source
    match ← writeRendered output (Token.renderAll tokens) with
    | .error e => return (.error e, log)
    | .ok () => return (.ok tokens, log.event (.wrote input output tokens.length))

/-! ### Laws -/

/-- Reading changes nothing. -/
theorem readSource_on (path : String) (w : Workspace) :
    (readSource path).on w = (decode path (w.files.read path), w) := rfl

/-- A transfer is reading, cutting into tokens and writing, in this order. -/
theorem run_on (input output : String) (log : Journal) (w : Workspace) :
    (run input output log).on w =
      match decode input (w.files.read input) with
      | .error e => ((.error e, log), w)
      | .ok source =>
        let cut := tokenizeInto log source
        let written := (writeRendered output (Token.renderAll cut.1)).on w
        match written.1 with
        | .error e => ((.error e, cut.2), written.2)
        | .ok () => ((.ok cut.1, cut.2.event (.wrote input output cut.1.length)), written.2) := by
  unfold run
  rw [Action.on_bind, readSource_on]
  cases decode input (w.files.read input) with
  | error e => rfl
  | ok source =>
      simp only
      rw [Action.on_bind]
      cases ((writeRendered output (Token.renderAll (tokenizeInto log source).1)).on w).1 with
      | error e => rfl
      | ok _ => rfl

end Transfer

end ScriptLexer
