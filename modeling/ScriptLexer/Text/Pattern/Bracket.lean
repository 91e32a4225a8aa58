import ScriptLexer.Text.Pattern.Atom
import ScriptLexer.Text.Pattern.Row

/-!
# Classes in brackets

A class of characters is written as its members in brackets: characters, ranges of them,
classes with a name and other classes in brackets. A caret at the beginning makes it the class
of all other characters. Minus signs at the beginning are members, and so is a closing bracket
there. Two classes side by side that `&&`, `--` or `~~` joins are one level deeper than they
are.

## Main results

* `readMember_length` — reading a member passes over a beginning of the text.
-/

namespace ScriptLexer.Text.Pattern

/-- A class that is being read. -/
structure Bracket where
  /-- Whether it is the class of all other characters. -/
  negated : Bool
  /-- Whether only minus signs have been read. -/
  leading : Bool
  /-- The depth of what is before the last operator. -/
  left : Option Nat
  /-- The members after the last operator. -/
  members : Row
  deriving DecidableEq

namespace Bracket

/-- A class without members. -/
def start (negated : Bool) : Bracket :=
  ⟨negated, true, none, .empty⟩

/-- A class with one more member of the given depth. -/
def add (b : Bracket) (depth : Nat) : Bracket :=
  { b with leading := false, members := b.members.add depth }

/-- A class with a minus sign at its beginning. -/
def addMinus (b : Bracket) : Bracket :=
  { b with members := b.members.add 0 }

/-- How deep the members of a class are nested. -/
def inside (b : Bracket) : Nat :=
  match b.left with
  | none => b.members.depth
  | some depth => max depth b.members.depth + 1

/-- A class after an operator. -/
def operate (b : Bracket) : Bracket :=
  { b with leading := false, left := some b.inside, members := .empty }

/-- How deep a class is nested. -/
def depth (b : Bracket) : Nat :=
  b.inside + 1

/-- Whether nothing has been read since the beginning, so that a closing bracket is a member. -/
def isFresh (b : Bracket) : Bool :=
  b.leading && b.members.size == 0

end Bracket

/-- The names of classes. -/
def classNames : List String :=
  ["alnum", "alpha", "ascii", "blank", "cntrl", "digit", "graph", "lower", "print", "punct",
    "space", "upper", "word", "xdigit"]

/-- Whether a class with a name can be used, be it negated or not. -/
def allowsNamed (f : Flags) (negated : Bool) : Bool :=
  if f.unicode then !f.caseless else !negated

/-- Whether a class in brackets can be used: without Unicode, only ASCII belongs to it. -/
def allowsBracket (f : Flags) (b : Bracket) : Bool :=
  f.unicode || !b.negated

/-- Reads a name and its end. -/
def readNameOfClass? (negated : Bool) (text : List Char) : Option (Bool × List Char) :=
  let name := text.takeWhile (· != ':')
  match text.drop name.length with
  | ':' :: ']' :: rest =>
    if classNames.contains (String.ofList name) then some (negated, rest) else none
  | _ => none

/-- Reads a class with a name, such as `[:alpha:]` or `[:^alpha:]`, after its first bracket.
What looks otherwise is a class in brackets. -/
def readNamed? : List Char → Option (Bool × List Char)
  | ':' :: '^' :: rest => readNameOfClass? true rest
  | ':' :: rest => readNameOfClass? false rest
  | _ => none

/-- Reads the beginning of a class, after its bracket. -/
def openBracket (f : Flags) (text : List Char) : Bracket × List Char :=
  match skipBlanks f.verbose text with
  | '^' :: rest => (.start true, rest)
  | rest => (.start false, rest)

/-- Whether two atoms are the ends of a range. -/
def isRange (f : Flags) (first last : Atom) : Bool :=
  first.isMember f && last.isMember f &&
    match first.char?, last.char? with
    | some c, some d => c ≤ d
    | _, _ => false

/-- Reads a character or class, or a range of characters. A minus sign that a minus sign or the
closing bracket follows makes no range. -/
def readMember (f : Flags) (c : Char) (text : List Char) : Option (List Char) :=
  (readAtom f.verbose c text).bind fun (first, rest) =>
    match skipBlanks f.verbose rest with
    | '-' :: more =>
      let next := peekAfterMinus? f.verbose more
      if next = some ']' || next = some '-' then
        if first.isMember f then some ('-' :: more) else none
      else match skipBlanks f.verbose more with
        | [] => none
        | d :: rest =>
          (readAtom f.verbose d rest).bind fun (last, rest) =>
            if isRange f first last then some rest else none
    | rest => if first.isMember f then some rest else none

/-! ### Lengths -/

variable {f : Flags} {b negated : Bool} {c : Char} {text rest : List Char}

/-- Reading the name of a class passes over a beginning of the text. -/
theorem readNameOfClass?_length (h : readNameOfClass? negated text = some (b, rest)) :
    rest.length ≤ text.length := by
  simp only [readNameOfClass?] at h
  split at h
  case h_1 after hdrop =>
      have hlength := congrArg List.length hdrop
      rw [List.length_drop, List.length_cons, List.length_cons] at hlength
      split at h
      · obtain ⟨_, rfl⟩ := Prod.mk.inj (Option.some.inj h)
        omega
      · contradiction
  case h_2 => contradiction

/-- Reading a class with a name passes over a beginning of the text. -/
theorem readNamed?_length (h : readNamed? text = some (b, rest)) : rest.length ≤ text.length := by
  unfold readNamed? at h
  split at h
  · exact Nat.le_succ_of_le (Nat.le_succ_of_le (readNameOfClass?_length h))
  · exact Nat.le_succ_of_le (readNameOfClass?_length h)
  · contradiction

/-- Reading the beginning of a class passes over a beginning of the text. -/
theorem openBracket_length (f : Flags) (text : List Char) :
    (openBracket f text).2.length ≤ text.length := by
  have hskip := skipBlanks_length f.verbose text
  rw [openBracket]
  split
  case h_1 rest hcaret =>
      rw [hcaret, List.length_cons] at hskip
      exact Nat.le_of_succ_le hskip
  case h_2 => exact hskip

/-- Reading a member passes over a beginning of the text. -/
theorem readMember_length (h : readMember f c text = some rest) : rest.length ≤ text.length := by
  obtain ⟨⟨first, after⟩, hfirst, h⟩ := Option.bind_eq_some_iff.1 h
  have hafter := readAtom_length hfirst
  have hskip := skipBlanks_length f.verbose after
  dsimp only at h
  split at h
  case h_1 more hminus =>
      rw [hminus, List.length_cons] at hskip
      split at h
      · split at h
        · obtain rfl := Option.some.inj h
          rw [List.length_cons]
          omega
        · contradiction
      · have hmore := skipBlanks_length f.verbose more
        split at h
        case h_1 => contradiction
        case h_2 d behind hsecond =>
            rw [hsecond, List.length_cons] at hmore
            obtain ⟨⟨last, final⟩, hlast, h⟩ := Option.bind_eq_some_iff.1 h
            have hfinal := readAtom_length hlast
            dsimp only at h
            split at h
            · obtain rfl := Option.some.inj h
              omega
            · contradiction
  case h_2 =>
      split at h
      · obtain rfl := Option.some.inj h
        omega
      · contradiction

end ScriptLexer.Text.Pattern
