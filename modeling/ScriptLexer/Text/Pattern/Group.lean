import ScriptLexer.Text.Alphabetic
import ScriptLexer.Text.Pattern.Blank
import ScriptLexer.Text.Pattern.Flags
import ScriptLexer.Text.Pattern.Row

/-!
# Groups

A group holds alternatives, each of which is a sequence of expressions. A whole regular
expression is like a group without parentheses. After the opening parenthesis of a group can
come a question mark and the name of the group, or flags and a colon. Flags and a closing
parenthesis are no group: they switch flags for the rest of the group around them.

## Main results

* `readOpening_length` — reading the beginning of a group passes over a beginning of the text.
-/

namespace ScriptLexer.Text.Pattern

/-- A group that is being read. -/
structure Group where
  /-- The alternatives before the last one. -/
  alternatives : Row
  /-- The expressions of the last alternative. -/
  sequence : Row
  /-- The depth of what a repetition sign would repeat. -/
  operand : Option Nat
  deriving DecidableEq

namespace Group

/-- A group with nothing in it. -/
def empty : Group :=
  ⟨.empty, .empty, none⟩

/-- A group with one more expression of the given depth. -/
def add (g : Group) (depth : Nat) : Group :=
  { g with sequence := g.sequence.add depth, operand := some depth }

/-- A group with flags, which cannot be repeated. -/
def addFlags (g : Group) : Group :=
  { g with sequence := g.sequence.add 0, operand := none }

/-- A group whose last expression is repeated, if there is something to repeat. -/
def repeat? (g : Group) : Option Group :=
  g.operand.map fun depth =>
    { g with sequence := g.sequence.deepen (depth + 1), operand := some (depth + 1) }

/-- A group at the beginning of another alternative. -/
def alternate (g : Group) : Group :=
  ⟨g.alternatives.add g.sequence.depth, .empty, none⟩

/-- How deep the alternatives of a group are nested. -/
def depth (g : Group) : Nat :=
  (g.alternatives.add g.sequence.depth).depth

end Group

/-- What follows an opening parenthesis. -/
inductive Opening where
  /-- A group. -/
  | group
  /-- A group with a name. -/
  | named (name : List Char)
  /-- A group with flags. -/
  | flagged (s : Switches)
  /-- Flags for the rest of the group around them. -/
  | switches (s : Switches)
  deriving DecidableEq

/-- Whether a name starts with a letter or low line and goes on with these, numbers, dots and
brackets. -/
def isName : List Char → Bool
  | [] => false
  | c :: rest =>
    (c == '_' || isAlphabetic c) &&
      rest.all fun d => isAlphanumeric d || "_.[]".toList.contains d

/-- Reads the name of a group and the bracket after it. -/
def readName (text : List Char) : Option (Opening × List Char) :=
  let name := text.takeWhile (· != '>')
  match text.drop name.length with
  | _ :: rest => if isName name then some (.named name, rest) else none
  | [] => none

/-- Reads the flags of a group, or flags alone, of which there is at least one. -/
def readFlags (text : List Char) : Option (Opening × List Char) :=
  (readSwitches .empty text).bind fun (s, rest) =>
    match rest with
    | ':' :: rest => some (.flagged s, rest)
    | _ :: rest => if s.isEmpty then none else some (.switches s, rest)
    | [] => none

/-- Reads what follows an opening parenthesis, with the blanks before it. -/
def readOpening (verbose : Bool) (text : List Char) : Option (Opening × List Char) :=
  match skipBlanks verbose text with
  | '?' :: '<' :: rest => readName rest
  | '?' :: 'P' :: '<' :: rest => readName rest
  | '?' :: rest => readFlags rest
  | rest => some (.group, rest)

/-! ### Lengths -/

variable {text rest : List Char} {o : Opening}

/-- Reading the name of a group passes over a beginning of the text. -/
theorem readName_length (h : readName text = some (o, rest)) : rest.length ≤ text.length := by
  simp only [readName] at h
  split at h
  case h_1 c after hdrop =>
      have hlength := congrArg List.length hdrop
      rw [List.length_drop, List.length_cons] at hlength
      split at h
      · obtain ⟨_, rfl⟩ := Prod.mk.inj (Option.some.inj h)
        omega
      · contradiction
  case h_2 => contradiction

/-- Reading the flags of a group passes over a beginning of the text. -/
theorem readFlags_length (h : readFlags text = some (o, rest)) : rest.length ≤ text.length := by
  obtain ⟨⟨s, after⟩, hswitches, h⟩ := Option.bind_eq_some_iff.1 h
  have hafter := readSwitches_length hswitches
  dsimp only at h
  split at h
  · obtain ⟨_, rfl⟩ := Prod.mk.inj (Option.some.inj h)
    exact Nat.le_of_succ_le hafter
  · split at h
    · contradiction
    · obtain ⟨_, rfl⟩ := Prod.mk.inj (Option.some.inj h)
      exact Nat.le_of_succ_le hafter
  · contradiction

/-- Reading the beginning of a group passes over a beginning of the text. -/
theorem readOpening_length {verbose : Bool} (h : readOpening verbose text = some (o, rest)) :
    rest.length ≤ text.length := by
  have hskip := skipBlanks_length verbose text
  rw [readOpening] at h
  split at h
  case h_1 after hname =>
      have hlength := readName_length h
      rw [hname, List.length_cons, List.length_cons] at hskip
      omega
  case h_2 after hname =>
      have hlength := readName_length h
      rw [hname, List.length_cons, List.length_cons, List.length_cons] at hskip
      omega
  case h_3 after _ _ hflags =>
      have hlength := readFlags_length h
      rw [hflags, List.length_cons] at hskip
      omega
  case h_4 =>
      obtain ⟨_, rfl⟩ := Prod.mk.inj (Option.some.inj h)
      exact hskip

end ScriptLexer.Text.Pattern
