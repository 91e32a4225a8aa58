import ScriptLexer.Text.Pattern.Bracket
import ScriptLexer.Text.Pattern.Group

/-!
# Regular expressions

Whether a text is a regular expression. The expressions have groups, alternatives, classes of
characters and the repetitions `*`, `+` and `?` after something to repeat. An opening brace
stands for itself in classes only: there is no repetition by number, and nothing in braces after
a backslash. Expressions cannot be nested too deep.

## Main results

* `step_length` — reading a character passes over a beginning of the text.
-/

namespace ScriptLexer.Text

namespace Pattern

/-- How far a regular expression has been read. -/
structure State where
  /-- The flags in force. -/
  flags : Flags
  /-- The names of groups so far. -/
  names : List (List Char)
  /-- The innermost group. -/
  group : Group
  /-- The groups around it, each with the flags in force after the group inside it. -/
  around : List (Flags × Group)
  /-- The classes in brackets that are open, the innermost one first. -/
  brackets : List Bracket
  deriving DecidableEq

namespace State

/-- Before the first character. -/
def start : State :=
  ⟨.initial, [], .empty, [], []⟩

/-- After one more expression in the innermost group. -/
def add (s : State) (depth : Nat) : State :=
  { s with group := s.group.add depth }

/-- After an atom, if that can be used. -/
def addAtom? (s : State) (a : Atom) : Option State :=
  if a.isUsable s.flags then some (s.add 0) else none

/-- In a new group. -/
def enter (s : State) (flags : Flags) : State :=
  { s with flags := flags, group := .empty, around := (s.flags, s.group) :: s.around }

/-- After the end of the innermost group. -/
def leave? (s : State) : Option State :=
  match s.around with
  | [] => none
  | (flags, group) :: around =>
    some { s with flags := flags, group := group.add (s.group.depth + 1), around := around }

/-- After the beginning of a group, or after flags. No two groups have one name. -/
def open? (s : State) : Opening → Option State
  | .group => some (s.enter s.flags)
  | .named name =>
    if name ∈ s.names then none else some ({ s with names := name :: s.names }.enter s.flags)
  | .flagged f => some (s.enter (s.flags.switch f))
  | .switches f => some { s with flags := s.flags.switch f, group := s.group.addFlags }

/-- After the end of a class, which is a member of the class around it or else an expression. -/
def close? (s : State) (b : Bracket) (around : List Bracket) : Option State :=
  if allowsBracket s.flags b then
    match around with
    | [] => some { s.add b.depth with brackets := [] }
    | outer :: more => some { s with brackets := outer.add b.depth :: more }
  else none

end State

/-- Reads a character outside classes, and what belongs to it. -/
def readOutside (s : State) (c : Char) (rest : List Char) : Option (State × List Char) :=
  match c with
  | '(' => (readOpening s.flags.verbose rest).bind fun (o, rest) => (s.open? o).map (·, rest)
  | ')' => s.leave?.map (·, rest)
  | '|' => some ({ s with group := s.group.alternate }, rest)
  | '[' =>
    let (b, rest) := openBracket s.flags rest
    some ({ s with brackets := [b] }, rest)
  | '\x7b' => none
  | '\\' => (readEscape s.flags.verbose rest).bind fun (a, rest) => (s.addAtom? a).map (·, rest)
  | '.' => (s.addAtom? .dot).map (·, rest)
  | '^' => (s.addAtom? (.place false)).map (·, rest)
  | '$' => (s.addAtom? (.place false)).map (·, rest)
  | _ =>
    if "*+?".toList.contains c then
      s.group.repeat?.map fun g =>
        ({ s with group := g }, if rest.head? = some '?' then rest.tail else rest)
    else (s.addAtom? (.char c)).map (·, rest)

/-- Reads a character in a class in brackets, and what belongs to it. -/
def readInside (s : State) (b : Bracket) (around : List Bracket) (c : Char) (rest : List Char) :
    Option (State × List Char) :=
  let update (b : Bracket) : State := { s with brackets := b :: around }
  if c = '[' then
    match readNamed? rest with
    | some (negated, rest) =>
      if allowsNamed s.flags negated then some (update (b.add 0), rest) else none
    | none =>
      let (inner, rest) := openBracket s.flags rest
      some ({ s with brackets := inner :: b :: around }, rest)
  else if c = ']' && !b.isFresh then (s.close? b around).map (·, rest)
  else if b.leading && (c = '-' || c = ']') then
    if (Atom.char c).isMember s.flags then
      some (update (if c = '-' then b.addMinus else b.add 0), rest)
    else none
  else if "&-~".toList.contains c && rest.head? = some c then
    some (update b.operate, rest.tail)
  else (readMember s.flags c rest).map (update (b.add 0), ·)

/-- Reads a character, and what belongs to it. -/
def step (s : State) (c : Char) (rest : List Char) : Option (State × List Char) :=
  match s.brackets with
  | [] => readOutside s c rest
  | b :: around => readInside s b around c rest

/-! ### Lengths -/

variable {s t : State} {c : Char} {text rest : List Char}

/-- A reader that keeps the text passes over none of it. -/
theorem length_le_of_map {o : Option State} (h : o.map (·, text) = some (t, rest)) :
    rest.length ≤ text.length := by
  obtain ⟨_, _, h⟩ := Option.map_eq_some_iff.1 h
  obtain ⟨_, rfl⟩ := Prod.mk.inj h
  exact Nat.le_refl _

/-- Reading a character outside classes passes over a beginning of the text. -/
theorem readOutside_length (h : readOutside s c text = some (t, rest)) :
    rest.length ≤ text.length := by
  unfold readOutside at h
  split at h
  · obtain ⟨⟨o, after⟩, hopening, h⟩ := Option.bind_eq_some_iff.1 h
    exact Nat.le_trans (length_le_of_map h) (readOpening_length hopening)
  · exact length_le_of_map h
  · obtain ⟨_, rfl⟩ := Prod.mk.inj (Option.some.inj h)
    exact Nat.le_refl _
  · obtain ⟨_, rfl⟩ := Prod.mk.inj (Option.some.inj h)
    exact openBracket_length s.flags text
  · contradiction
  · obtain ⟨⟨a, after⟩, hescape, h⟩ := Option.bind_eq_some_iff.1 h
    exact Nat.le_trans (length_le_of_map h) (Nat.le_of_lt (readEscape_length hescape))
  · exact length_le_of_map h
  · exact length_le_of_map h
  · exact length_le_of_map h
  · split at h
    · obtain ⟨_, _, h⟩ := Option.map_eq_some_iff.1 h
      obtain ⟨_, rfl⟩ := Prod.mk.inj h
      split
      · rw [List.length_tail]
        exact Nat.sub_le ..
      · exact Nat.le_refl _
    · exact length_le_of_map h

/-- Reading a character in a class passes over a beginning of the text. -/
theorem readInside_length {b : Bracket} {around : List Bracket}
    (h : readInside s b around c text = some (t, rest)) : rest.length ≤ text.length := by
  unfold readInside at h
  dsimp only at h
  split at h
  · split at h
    case h_1 hnamed =>
        split at h
        · obtain ⟨_, rfl⟩ := Prod.mk.inj (Option.some.inj h)
          exact readNamed?_length hnamed
        · contradiction
    case h_2 =>
        obtain ⟨_, rfl⟩ := Prod.mk.inj (Option.some.inj h)
        exact openBracket_length s.flags text
  · split at h
    · exact length_le_of_map h
    · split at h
      · split at h
        · obtain ⟨_, rfl⟩ := Prod.mk.inj (Option.some.inj h)
          exact Nat.le_refl _
        · contradiction
      · split at h
        · obtain ⟨_, rfl⟩ := Prod.mk.inj (Option.some.inj h)
          rw [List.length_tail]
          exact Nat.sub_le ..
        · obtain ⟨_, hmember, h⟩ := Option.map_eq_some_iff.1 h
          obtain ⟨_, rfl⟩ := Prod.mk.inj h
          exact readMember_length hmember

/-- Reading a character passes over a beginning of the text. -/
theorem step_length (h : step s c text = some (t, rest)) : rest.length ≤ text.length := by
  rw [step] at h
  split at h
  · exact readOutside_length h
  · exact readInside_length h

/-! ### Whole texts -/

/-- Reads a text to its end, with the blanks between what is read. -/
def read (s : State) (text : List Char) : Option State :=
  match hskip : skipBlanks s.flags.verbose text with
  | [] => some s
  | c :: behind =>
    match hstep : step s c behind with
    | none => none
    | some (t, rest) =>
      have hrest : rest.length < text.length := by
        have hlength := skipBlanks_length s.flags.verbose text
        rw [hskip, List.length_cons] at hlength
        exact Nat.lt_of_lt_of_le (Nat.lt_succ_of_le (step_length hstep)) hlength
      read t rest
termination_by text.length

/-- The depth that no expression exceeds. -/
def maxDepth : Nat :=
  250

/-- Whether nothing is left open, and nothing is nested too deep. -/
def State.isComplete (s : State) : Bool :=
  s.around.isEmpty && s.brackets.isEmpty && s.group.depth ≤ maxDepth

end Pattern

/-- Whether a text is a regular expression. -/
def isPattern (text : List Char) : Bool :=
  (Pattern.read .start text).any Pattern.State.isComplete

end ScriptLexer.Text
