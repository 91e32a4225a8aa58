import ScriptLexer.Text.Decimal

/-!
# Levels of severity

A log entry has one of five levels. A threshold lets through the entries that are at least as
severe as it is. Level names are read without regard to the case of ASCII letters.

## Main results

* `Level.ofName?_name` — a level is read back from its name.
* `Level.atLeast_trans` — a higher threshold lets through no more than a lower one.
-/

namespace ScriptLexer.Log

/-- How severe a log entry is, from the most severe level to the least. -/
inductive Level where
  | error
  | warn
  | info
  | debug
  | trace
  deriving DecidableEq

namespace Level

/-- The rank of a level: 1 for the most severe, 5 for the least. -/
def rank : Level → Nat
  | error => 1
  | warn => 2
  | info => 3
  | debug => 4
  | trace => 5

/-- The level of a rank. -/
def ofRank? : Nat → Option Level
  | 1 => some error
  | 2 => some warn
  | 3 => some info
  | 4 => some debug
  | 5 => some trace
  | _ => none

/-- The name of a level in a log. -/
def name : Level → String
  | error => "ERROR"
  | warn => "WARN"
  | info => "INFO"
  | debug => "DEBUG"
  | trace => "TRACE"

/-- Every level, the most severe first. -/
def all : List Level :=
  [error, warn, info, debug, trace]

/-- The level with a given name, in any mixture of letter cases. -/
def ofName? (text : String) : Option Level :=
  all.find? fun l => l.name.toList == text.toList.map Char.toUpper

/-- The level that a text stands for: by its rank, or else by its name. -/
def parse? (text : String) : Option Level :=
  ((Text.signedDecimal? text.toList).bind ofRank?).or (ofName? text)

/-- Whether a level is at least as severe as a threshold. -/
def atLeast (threshold l : Level) : Bool :=
  l.rank ≤ threshold.rank

/-! ### Laws -/

/-- What a higher threshold lets through, a lower one lets through too. -/
theorem atLeast_trans {a b l : Level} (hab : a.atLeast b) (hl : b.atLeast l) : a.atLeast l := by
  simp only [atLeast, decide_eq_true_eq] at *
  omega

end Level

/-- The least severe level that is let through, or nothing at all. -/
abbrev Threshold := Option Level

namespace Threshold

/-- Whether a threshold lets a level through. -/
def admits (t : Threshold) (l : Level) : Bool :=
  t.any (Level.atLeast · l)

/-- The one of two thresholds that lets more through. -/
def max : Threshold → Threshold → Threshold
  | none, t => t
  | t, none => t
  | some a, some b => if a.atLeast b then some a else some b

/-- The threshold that lets through what one of several does. -/
def maximum (ts : List Threshold) : Threshold :=
  ts.foldr max none

/-- The threshold that a text stands for: a level, or nothing if it is 0 or `off`. -/
def parse? (text : String) : Option Threshold :=
  if Text.signedDecimal? text.toList = some 0 ∨ text.toList.map Char.toLower = "off".toList then
    some none
  else
    (Level.parse? text).map some

end Threshold

end ScriptLexer.Log
