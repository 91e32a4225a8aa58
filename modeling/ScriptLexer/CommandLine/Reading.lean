import ScriptLexer.CommandLine.Argument
import ScriptLexer.CommandLine.UsageError

/-!
# Reading a command line

Arguments are read from left to right. A value that is part of its option's argument is checked
at once. A value in an argument of its own, or the input, is kept and checked when the next
argument that is understood comes, or at the end. So an argument that is not understood is
reported rather than a kept value that is wrong. The first request for help or the version ends
the reading.
-/

namespace ScriptLexer.CommandLine

open Log (Level Format)

/-- The options that have been given so far. -/
structure Draft where
  input : Option String
  output : Option String
  logLevel : Option Level
  logFormat : Option Format
  summary : Bool
  strict : Bool
  deriving DecidableEq

namespace Draft

/-- Nothing has been given. -/
def empty : Draft :=
  ⟨none, none, none, none, false, false⟩

/-- Whether a parameter has been given. -/
def has (d : Draft) : Parameter → Bool
  | .input => d.input.isSome
  | .output => d.output.isSome
  | .logLevel => d.logLevel.isSome
  | .logFormat => d.logFormat.isSome

/-- Takes the text of a parameter's value, which must be one of its values. -/
def assign (d : Draft) : Parameter → String → Except UsageError Draft
  | .input, text =>
    if text = "" then .error (.missingValue .input) else .ok { d with input := some text }
  | .output, text =>
    if text = "" then .error (.missingValue .output) else .ok { d with output := some text }
  | .logLevel, text =>
    match Level.parse? text with
    | some level => .ok { d with logLevel := some level }
    | none => .error (.invalidLevel text)
  | .logFormat, text =>
    if text = "" then .error (.missingValue .logFormat)
    else match Format.ofName? text with
      | some format => .ok { d with logFormat := some format }
      | none => .error (.invalidFormat text)

/-- Takes a parameter: it needs a value, comes once, and has one of its values. -/
def take (d : Draft) (p : Parameter) (value : Option String) : Except UsageError Draft :=
  match value with
  | none => .error (.missingValue p)
  | some text => if d.has p then .error (.repeatedParameter p) else d.assign p text

/-- Takes a switch, which comes once. -/
def turnOn (d : Draft) : Switch → Except UsageError Draft
  | .summary =>
    if d.summary then .error (.repeatedSwitch .summary) else .ok { d with summary := true }
  | .strict =>
    if d.strict then .error (.repeatedSwitch .strict) else .ok { d with strict := true }

/-- The options, where those that were not given are the default ones. -/
def options (d : Draft) : Options :=
  { input := d.input.getD Options.default.input
    output := d.output.getD Options.default.output
    logLevel := d.logLevel.getD Options.default.logLevel
    logFormat := d.logFormat.getD Options.default.logFormat
    summary := d.summary
    strict := d.strict }

end Draft

/-- How far the reading of a command line has come. -/
structure Reading where
  /-- The options checked so far. -/
  draft : Draft
  /-- A parameter that is not checked yet, with its value if that has been seen. -/
  pending : Option (Parameter × Option String)
  /-- Whether the options have ended. -/
  escaped : Bool
  deriving DecidableEq

/-- What an argument leads to. -/
inductive Progress where
  /-- The reading goes on. -/
  | reading (r : Reading)
  /-- The command line is understood. -/
  | asked (request : Request)
  deriving DecidableEq

namespace Reading

/-- Nothing has been read. -/
def start : Reading :=
  ⟨.empty, none, false⟩

/-- Checks what is pending. -/
def settle (r : Reading) : Except UsageError Reading :=
  match r.pending with
  | none => .ok r
  | some (p, value) =>
    (r.draft.take p value).map fun draft => { r with draft := draft, pending := none }

/-- Whether an input has been seen, checked or not. -/
def hasInput (r : Reading) : Bool :=
  r.draft.input.isSome || (r.pending.map Prod.fst == some .input)

/-- Reads a parameter's option, whose value follows later if it is not there. -/
def parameter (r : Reading) (p : Parameter) (value : Option String) :
    Except UsageError Progress := do
  let r ← r.settle
  match value with
  | some _ => return .reading { r with draft := ← r.draft.take p value }
  | none => return .reading { r with pending := some (p, none) }

/-- Reads a switch, which takes no value. -/
def switch (r : Reading) (s : Switch) : Option String → Except UsageError Progress
  | some value => .error (.unexpectedValue value s.usage)
  | none => do
    let r ← r.settle
    return .reading { r with draft := ← r.draft.turnOn s }

/-- Reads an option that ends the reading. -/
def ending (r : Reading) (usage : String) (request : Request) :
    Option String → Except UsageError Progress
  | some value => .error (.unexpectedValue value usage)
  | none => r.settle.map fun _ => .asked request

/-- Reads an input, of which there is one. -/
def positional (r : Reading) (text : String) : Except UsageError Progress :=
  if r.hasInput then .error (.unexpectedArgument text)
  else r.settle.map fun r => .reading { r with pending := some (.input, some text) }

/-- Reads a text: the value of a parameter that waits for one, or else an input. -/
def plain (r : Reading) (text : String) : Except UsageError Progress :=
  match r.pending with
  | some (p, none) => .ok (.reading { r with pending := some (p, some text) })
  | _ => r.positional text

/-- Reads a long option. -/
def long (r : Reading) (name : String) (value : Option String) : Except UsageError Progress :=
  match name with
  | "output" => r.parameter .output value
  | "log-level" => r.parameter .logLevel value
  | "log-format" => r.parameter .logFormat value
  | "summary" => r.switch .summary value
  | "strict" => r.switch .strict value
  | "help" => r.ending "--help" .fullHelp value
  | "version" => r.ending "--version" .version value
  | _ => .error (.unexpectedArgument ("--" ++ name))

/-- The value that follows the letter of a short option; an equals sign before it is no part
of it. -/
def attachedValue? (attached : String) : Option String :=
  match attached.toList with
  | [] => none
  | '=' :: value => some (String.ofList value)
  | _ => some attached

/-- Reads a short option. -/
def short (r : Reading) (letter : Char) (attached : String) : Except UsageError Progress :=
  match letter with
  | 'o' => r.parameter .output (attachedValue? attached)
  | 'h' => r.ending "-h" .help none
  | 'V' => r.ending "-V" .version none
  | _ => .error (.unexpectedArgument (String.ofList ['-', letter]))

/-- Reads an argument. -/
def step (r : Reading) (argument : String) : Except UsageError Progress :=
  if r.escaped then r.positional argument
  else match Argument.ofText argument with
    | .escape => .ok (.reading { r with escaped := true })
    | .long name value => r.long name value
    | .short letter attached => r.short letter attached
    | .plain text => r.plain text

/-- Reads the arguments that are left. -/
def finish (r : Reading) : List String → Except UsageError Request
  | [] => r.settle.map fun r => .run r.draft.options
  | argument :: more => do
    match ← r.step argument with
    | .asked request => return request
    | .reading next => next.finish more

end Reading

/-- Reads a command line. -/
def parse (arguments : List String) : Except UsageError Request :=
  Reading.start.finish arguments

end ScriptLexer.CommandLine
