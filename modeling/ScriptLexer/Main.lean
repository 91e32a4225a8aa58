import ScriptLexer.Program

/-!
# The command line program

Runs the program on the files of the machine: its actions are carried out one by one with the
file operations of the operating system.
-/

namespace ScriptLexer.Main

open Files (Action Fault)

/-- The number of an error, which the operating system reports negated or not. -/
def errorNumber (code : UInt32) : Nat :=
  min code.toNat (0 - code).toNat

/-- The fault that an error of the operating system stands for. -/
def faultOf : IO.Error → Fault
  | .noFileOrDirectory _ _ _ => .notFound
  | .inappropriateType _ code _ => if errorNumber code = 20 then .notADirectory else .isDirectory
  | .invalidArgument _ code details =>
    if errorNumber code = 36 then .nameTooLong else .other details
  | .permissionDenied _ code _ =>
    .other ("Permission denied (os error " ++ toString (errorNumber code) ++ ")")
  | e => .other (toString e)

/-- Does something with a path, unless the path has U+0000 in it. -/
def withPath {α : Type} (path : String) (act : IO α) : IO (Except Fault α) := do
  if path.toList.contains '\x00' then return .error .nulInPath
  match ← act.toBaseIO with
  | .ok value => return .ok value
  | .error e => return .error (faultOf e)

/-- Carries an action out on the files of the machine. -/
def perform {α : Type} : Action α → IO α
  | .done value => return value
  | .read path next => do perform (next (← withPath path (IO.FS.readBinFile path)))
  | .write path content next => do
    perform (next (← withPath path (IO.FS.writeBinFile path content)))
  | .print text next => do
    IO.print text
    (← IO.getStdout).flush
    perform next

end ScriptLexer.Main

/-- Runs the program with the arguments of the command line and the log filter of the
environment. -/
def main (arguments : List String) : IO UInt32 := do
  let outcome ← ScriptLexer.Main.perform
    (ScriptLexer.Program.run arguments (← IO.getEnv "RUST_LOG"))
  IO.eprint outcome.standardError
  return outcome.exit.toUInt32
