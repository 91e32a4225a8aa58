/-!
# Flags

The flags of a regular expression change how it is read and what it means. They are written as
letters, those after a minus sign being switched off, and end with a colon or a closing
parenthesis. No letter occurs twice and at least one follows the minus sign.

## Main results

* `readSwitches_length` — reading flags passes over a beginning of the text.
-/

namespace ScriptLexer.Text.Pattern

/-- What a flag is about. -/
inductive Flag where
  /-- Upper and lower case are the same. -/
  | caseless
  /-- The ends of lines are places, too. -/
  | lines
  /-- A dot stands for a line feed, too. -/
  | everything
  /-- A carriage return can come before the line feed that ends a line. -/
  | carriageReturn
  /-- Repetitions are as short as possible. -/
  | short
  /-- Characters are those of Unicode rather than ASCII. -/
  | unicode
  /-- White space and comments count for nothing. -/
  | verbose
  deriving DecidableEq

/-- The flag that a letter switches. -/
def Flag.ofLetter? : Char → Option Flag
  | 'i' => some .caseless
  | 'm' => some .lines
  | 's' => some .everything
  | 'R' => some .carriageReturn
  | 'U' => some .short
  | 'u' => some .unicode
  | 'x' => some .verbose
  | _ => none

/-- The flags on which it depends whether a text is a regular expression. -/
structure Flags where
  caseless : Bool
  unicode : Bool
  verbose : Bool
  deriving DecidableEq

/-- The flags at the beginning of a regular expression. -/
def Flags.initial : Flags :=
  ⟨false, true, false⟩

/-- The flags that are switched on and off. -/
structure Switches where
  on : List Flag
  off : List Flag
  /-- Whether there was a minus sign. -/
  negative : Bool
  deriving DecidableEq

namespace Switches

/-- No flags. -/
def empty : Switches :=
  ⟨[], [], false⟩

/-- Whether there are no flags. -/
def isEmpty (s : Switches) : Bool :=
  s.on.isEmpty && s.off.isEmpty

/-- The flags with one more, unless they have it already. -/
def add? (s : Switches) (f : Flag) : Option Switches :=
  if f ∈ s.on || f ∈ s.off then none
  else if s.negative then some { s with off := f :: s.off }
  else some { s with on := f :: s.on }

/-- What a flag is after switching. -/
def apply (s : Switches) (f : Flag) (before : Bool) : Bool :=
  f ∈ s.on || (before && !decide (f ∈ s.off))

end Switches

/-- The flags after switching. -/
def Flags.switch (f : Flags) (s : Switches) : Flags :=
  ⟨s.apply .caseless f.caseless, s.apply .unicode f.unicode, s.apply .verbose f.verbose⟩

/-- Reads flags up to the mark that ends them, which is the first character of the rest. -/
def readSwitches (s : Switches) : List Char → Option (Switches × List Char)
  | [] => none
  | c :: rest =>
    if c == ':' || c == ')' then
      if s.negative && s.off.isEmpty then none else some (s, c :: rest)
    else if c == '-' then
      if s.negative then none else readSwitches { s with negative := true } rest
    else (Flag.ofLetter? c).bind fun f => (s.add? f).bind (readSwitches · rest)

/-- Reading flags passes over a beginning of the text. -/
theorem readSwitches_length {s t : Switches} {text rest : List Char}
    (h : readSwitches s text = some (t, rest)) : rest.length ≤ text.length := by
  induction text generalizing s with
  | nil => simp [readSwitches] at h
  | cons c more ih =>
      rw [readSwitches] at h
      split at h
      · split at h
        · contradiction
        · obtain ⟨_, rfl⟩ := Prod.mk.inj (Option.some.inj h)
          exact Nat.le_refl _
      · split at h
        · split at h
          · contradiction
          · exact Nat.le_succ_of_le (ih h)
        · obtain ⟨f, _, h⟩ := Option.bind_eq_some_iff.1 h
          obtain ⟨_, _, h⟩ := Option.bind_eq_some_iff.1 h
          exact Nat.le_succ_of_le (ih h)

end ScriptLexer.Text.Pattern
