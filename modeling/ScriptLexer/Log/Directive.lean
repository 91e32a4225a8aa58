import ScriptLexer.Log.Event
import ScriptLexer.Text.Alphanumeric
import ScriptLexer.Text.Decimal
import ScriptLexer.Text.Pattern
import ScriptLexer.Text.Utf8
import ScriptLexer.Text.WhiteSpace

/-!
# Directives

A directive sets the threshold of some entries of a log. It can ask that the name of the part
of the program that an entry comes from begins in a given way, that the entry has a field, and
that it happens inside a span with a given name or inside a span with a given field.

A directive is written `level`, `name`, `name=level` or `name=`, where a missing level lets
everything through. Before the equals sign, brackets can name a span and, in braces, a field of
it and the value that this has, as in `name[span{field=value}]=level`.
-/

namespace ScriptLexer.Log

/-- What is expected of the value of a field. -/
inductive Expectation where
  /-- The value is a given count. -/
  | count (n : Nat)
  /-- The value is something that no count is. -/
  | other
  deriving DecidableEq

namespace Expectation

/-- Counts are below this. -/
def limit : Nat :=
  UInt64.size

/-- Whether a count meets an expectation. -/
def isMet (e : Expectation) (n : Nat) : Bool :=
  match e with
  | count m => m == n
  | other => false

/-- Reads an expectation: a count, another number, or a regular expression for texts. -/
def parse? (text : List Char) : Option Expectation :=
  match (Text.signedDecimal? text).filter (· < limit) with
  | some n => some (count n)
  | none => if Text.isScientific text || Text.isPattern text then some other else none

end Expectation

/-- A field that entries or spans have to have, and what is expected of its value. -/
structure Condition where
  name : String
  value : Option Expectation
  deriving DecidableEq

/-- Reads a condition: the name of a field, and after an equals sign the value. A second equals
sign and what follows it count for nothing. -/
def Condition.parse? (text : List Char) : Option Condition :=
  let name := String.ofList (text.takeWhile (· != '='))
  match text.dropWhile (· != '=') with
  | [] => some ⟨name, none⟩
  | _ :: value => (Expectation.parse? (value.takeWhile (· != '='))).map (⟨name, some ·⟩)

/-- Sets the threshold of some entries. -/
structure Directive where
  /-- What the names of the parts of the program begin with. -/
  beginning : Option String
  /-- The name of a span. -/
  span : Option String
  /-- A condition on a field. -/
  field : Option Condition
  /-- What is let through. -/
  threshold : Threshold
  deriving DecidableEq

namespace Directive

/-- The directive about everything. -/
def general (t : Threshold) : Directive :=
  ⟨none, none, none, t⟩

/-- The directive about the parts of the program whose names begin with a text. -/
def about (beginning : String) (t : Threshold) : Directive :=
  ⟨some beginning, none, none, t⟩

/-- Whether a directive speaks about a part of the program. -/
def covers (d : Directive) (target : Target) : Bool :=
  d.beginning.all fun beginning => beginning.toList.isPrefixOf target.name.toList

/-- Whether a directive looks at the span around an entry. -/
def isScoped (d : Directive) : Bool :=
  d.span.isSome || d.field.isSome

/-- Whether a directive looks at entries themselves: it names no span and asks for no value. -/
def isStatic (d : Directive) : Bool :=
  d.span.isNone && d.field.all (·.value.isNone)

/-- Whether two directives speak about the same entries. -/
def sameScope (d e : Directive) : Bool :=
  d.beginning == e.beginning && d.span == e.span && d.field == e.field

/-! ### Reading -/

/-- A threshold that is written from a place on: everything if there is nothing. -/
def thresholdFrom? (given : List Char) (place : Nat) : Option Threshold :=
  (Text.dropBytes? place given).bind fun text =>
    if text = [] then some (some .trace) else Threshold.parse? (String.ofList text)

/-- Reads what follows the brackets of a directive: nothing, or an equals sign and a level. -/
def afterBrackets? (given : List Char) (place : Nat) (rest : List Char)
    (d : Threshold → Directive) : Option Directive :=
  match rest with
  | [] => some (d (some .trace))
  | '=' :: _ => (thresholdFrom? given (place + 1)).map d
  | _ => none

/-- Reads the brackets of a directive, from the place after the opening one. -/
def brackets? (given : List Char) (beginning : Option String) (place : Nat)
    (rest : List Char) : Option Directive := do
  let name := rest.takeWhile fun c => c != ']' && c != '\x7b'
  let stop := place + Text.byteLength name
  let span := String.ofList (← Text.slice? given place stop)
  match rest.drop name.length with
  | ']' :: rest => afterBrackets? given (stop + 1) rest (⟨beginning, some span, none, ·⟩)
  | _ :: rest =>
    let field := rest.takeWhile (· != '\x7d')
    let last := stop + 1 + Text.byteLength field
    match field, rest.drop field.length with
    | _ :: _, _ :: ']' :: rest =>
      let condition ← Condition.parse? (← Text.slice? given (stop + 1) last)
      let named := if span = "" then none else some span
      afterBrackets? given (last + 2) rest (⟨beginning, named, some condition, ·⟩)
    | _, _ => none
  | [] => none

/-- A directive starts with a letter or number in any script, `-`, `_`, `:` or a bracket. -/
def isNameStart (c : Char) : Bool :=
  Text.isAlphanumeric c || c == '-' || c == '_' || c == ':'

/-- Reads a directive. Its marks are looked for in the text without the white space around it,
but its parts are taken from the text as given, at the places where the marks were found: so
white space before a directive becomes part of it and moves the ends of its parts. -/
def parse? (given : List Char) : Option Directive :=
  match Text.trim given with
  | [] => none
  | '[' :: rest => brackets? given none 1 rest
  | c :: more =>
    if isNameStart c then
      let name := (c :: more).takeWhile fun c => c != '=' && c != '['
      let place := Text.byteLength name
      match (c :: more).drop name.length with
      | [] =>
        let text := String.ofList given
        some (((Threshold.parse? text).map general).getD (about text (some .trace)))
      | mark :: rest => do
        let beginning := String.ofList (← Text.slice? given 0 place)
        if mark = '=' then
          (thresholdFrom? given (place + 1)).map (about beginning)
        else
          brackets? given (some beginning) (place + 1) rest
    else none

end Directive

end ScriptLexer.Log
