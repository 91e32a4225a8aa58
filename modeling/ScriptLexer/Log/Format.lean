import ScriptLexer.Log.Event
import ScriptLexer.Text.Terminal

/-!
# Formats

How the entries of a log are written. Only events are written; one that happens inside the span
of a scan is written with the name of the span and the size of the script, if the span itself is
in the log. The compact format has one line for each event, the JSON format one object on a line,
and the pretty format a paragraph that an empty line ends.

## Main results

* `Format.ofName?_name` — a format is read back from its name.
-/

namespace ScriptLexer.Log

/-- The way in which events are written. -/
inductive Format where
  | pretty
  | compact
  | json
  deriving DecidableEq

namespace Format

/-- Every format. -/
def all : List Format :=
  [pretty, compact, json]

/-- The name of a format. -/
def name : Format → String
  | pretty => "pretty"
  | compact => "compact"
  | json => "json"

/-- The format with a given name; letter case counts. -/
def ofName? (text : String) : Option Format :=
  all.find? (·.name == text)

end Format

/-! ### Spans -/

/-- The span that a reader of a log has seen made, and the one it is in, by their sizes. -/
structure Surroundings where
  /-- The span that was made last. -/
  made : Option Nat
  /-- The span that is entered. -/
  inside : Option Nat

/-- No span was made or entered. -/
def Surroundings.none : Surroundings :=
  ⟨.none, .none⟩

/-- The surroundings after an entry. -/
def Surroundings.after (s : Surroundings) : Entry → Surroundings
  | .span length => { s with made := some length }
  | .enter => { s with inside := s.made }
  | .exit => { s with inside := .none }
  | .event _ => s

/-- The events of a log, each with the size of the span that it lies in. -/
def placed (s : Surroundings) : List Entry → List (Event × Option Nat)
  | [] => []
  | .event e :: entries => (e, s.inside) :: placed s entries
  | entry :: entries => placed (s.after entry) entries

/-! ### Compact -/

/-- A value in the compact and pretty formats. -/
def Value.text : Value → String
  | .number n => toString n
  | .plain s => s
  | .quoted s => Text.Quoted.encode s

/-- A text with spaces before it, up to a width. -/
def alignRight (width : Nat) (text : String) : String :=
  String.ofList (List.replicate (width - text.length) ' ') ++ text

/-- The fields of an event, each after a mark and with another mark before its value. -/
def fieldTexts (before between : String) (e : Event) : String :=
  String.join (e.fields.map fun (name, value) => before ++ name ++ between ++ value.text)

/-- An event on one line: level, span, message, fields, and the size of the span. -/
def compactLine (e : Event) (span : Option Nat) : String :=
  alignRight 5 e.level.name ++ " " ++
    (if span.isSome then Entry.spanName ++ ": " else "") ++
    Text.Terminal.escape e.message ++ fieldTexts " " "=" e ++
    ((span.map fun length => " len=" ++ toString length).getD "") ++ "\n"

/-! ### Pretty -/

/-- An event in a paragraph: level, source, message and fields, then the span if there is one. -/
def prettyParagraph (e : Event) (span : Option Nat) : String :=
  "  " ++ e.level.name ++ " " ++ e.target.name ++ ": " ++ Text.Terminal.escape e.message ++
    fieldTexts ", " ": " e ++ "\n" ++
    ((span.map fun length =>
      "    in " ++ Target.scanning.name ++ "::" ++ Entry.spanName ++ " with len: " ++
        toString length ++ "\n").getD "") ++
    "\n"

/-! ### JSON -/

/-- A value in the JSON format. -/
def Value.json : Value → String
  | .number n => toString n
  | .plain s => Text.JsonString.encode s
  | .quoted s => Text.JsonString.encode s

/-- A JSON object of members that are written already. -/
def jsonObject (members : List (String × String)) : String :=
  "\x7b" ++
    String.intercalate "," (members.map fun (name, value) =>
      Text.JsonString.encode name ++ ":" ++ value) ++
    "\x7d"

/-- The span of a scan as a JSON object. -/
def jsonSpan (length : Nat) : String :=
  jsonObject [("len", toString length), ("name", Text.JsonString.encode Entry.spanName)]

/-- An event as a JSON object on one line. -/
def jsonLine (e : Event) (span : Option Nat) : String :=
  let fields := ("message", Text.JsonString.encode e.message) ::
    e.fields.map fun (name, value) => (name, value.json)
  let spans := match span with
    | some length => [("span", jsonSpan length), ("spans", "[" ++ jsonSpan length ++ "]")]
    | none => []
  jsonObject
    ([("level", Text.JsonString.encode e.level.name), ("fields", jsonObject fields),
      ("target", Text.JsonString.encode e.target.name)] ++ spans) ++ "\n"

namespace Format

/-- One event as a format writes it. -/
def event : Format → Event → Option Nat → String
  | pretty => prettyParagraph
  | compact => compactLine
  | json => jsonLine

/-- A log as a format writes it. -/
def render (f : Format) (entries : List Entry) : String :=
  String.join ((placed .none entries).map fun (e, span) => f.event e span)

end Format

end ScriptLexer.Log
