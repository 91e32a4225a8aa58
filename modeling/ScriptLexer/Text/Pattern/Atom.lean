import ScriptLexer.Text.Pattern.Blank
import ScriptLexer.Text.Pattern.Flags

/-!
# Atoms of regular expressions

An atom is a character, a class of characters or a place in a text, and stands by itself or
after a backslash. After a backslash, a punctuation mark stands for itself, some letters for
control characters, places or classes, and others for the character with a code of as many
hexadecimal digits as the letter says.

An expression matches whole characters and knows no properties of those outside ASCII. So with
the flag for Unicode, letters have no case, classes no short forms and words no bounds; and
without it, what stands for one byte has to stand for ASCII.

## Main results

* `readEscape_length` — reading what follows a backslash passes over a character.
-/

namespace ScriptLexer.Text.Pattern

/-- What stands for a character, a class of characters or a place. -/
inductive Atom where
  /-- A character. -/
  | char (c : Char)
  /-- A character that is given by a code of one byte. -/
  | byte (c : Char)
  /-- Any character in a line. -/
  | dot
  /-- The digits, the white space or the characters of words, or all other characters. -/
  | shorthand (negated : Bool)
  /-- A place, which can be at a bound of a word. -/
  | place (word : Bool)
  deriving DecidableEq

namespace Atom

/-- The character that an atom is. -/
def char? : Atom → Option Char
  | char c => some c
  | byte c => some c
  | _ => none

/-- Whether an atom can be used outside classes. -/
def isUsable (f : Flags) : Atom → Bool
  | char _ => !(f.unicode && f.caseless)
  | byte c => if f.unicode then !f.caseless else c.toNat < 0x80
  | dot => f.unicode
  | shorthand negated => !f.unicode && !negated
  | place word => !(f.unicode && word)

/-- Whether an atom can be used in a class. -/
def isMember (f : Flags) : Atom → Bool
  | char c => if f.unicode then !f.caseless else c.toNat < 0x80
  | byte c => if f.unicode then !f.caseless else c.toNat < 0x80
  | shorthand negated => !f.unicode && !negated
  | _ => false

end Atom

/-- The hexadecimal digits that a letter after a backslash asks for. -/
def codeSize? : Char → Option Nat
  | 'x' => some 2
  | 'u' => some 4
  | 'U' => some 8
  | _ => none

/-- The atom that a single character after a backslash makes. -/
def escaped? (c : Char) : Option Atom :=
  if "dsw".toList.contains c then some (.shorthand false)
  else if "DSW".toList.contains c then some (.shorthand true)
  else if "Az".toList.contains c then some (.place false)
  else if "bB<>".toList.contains c then some (.place true)
  else match c with
    | 'a' => some (.char '\x07')
    | 'f' => some (.char '\x0c')
    | 't' => some (.char '\t')
    | 'n' => some (.char '\n')
    | 'r' => some (.char '\r')
    | 'v' => some (.char '\x0b')
    | _ => if c.toNat < 0x80 && !c.isAlphanum then some (.char c) else none

/-- The value of a hexadecimal digit. -/
def digit? (c : Char) : Option Nat :=
  if c.isDigit then some (c.toNat - '0'.toNat)
  else if 'a' ≤ c && c ≤ 'f' then some (c.toNat - 'a'.toNat + 10)
  else if 'A' ≤ c && c ≤ 'F' then some (c.toNat - 'A'.toNat + 10)
  else none

/-- Reads a number of hexadecimal digits, with the blanks before, between and after them. The
value of the digits before them is given. -/
def readCode (verbose : Bool) (value : Nat) : Nat → List Char → Option (Nat × List Char)
  | 0, text => some (value, skipBlanks verbose text)
  | left + 1, text =>
    match skipBlanks verbose text with
    | [] => none
    | c :: rest => (digit? c).bind fun d => readCode verbose (16 * value + d) left rest

/-- The character with a code. -/
def charOfCode? (code : Nat) : Option Char :=
  if code.isValidChar then some (Char.ofNat code) else none

/-- Reads what follows a backslash. -/
def readEscape (verbose : Bool) : List Char → Option (Atom × List Char)
  | [] => none
  | c :: rest =>
    match codeSize? c with
    | some size =>
      (readCode verbose 0 size rest).bind fun (code, rest) =>
        (charOfCode? code).map fun d => (if c = 'x' then .byte d else .char d, rest)
    | none => (escaped? c).map (·, rest)

/-- Reads a member of a class: what follows a backslash, or any character. -/
def readAtom (verbose : Bool) (c : Char) (rest : List Char) : Option (Atom × List Char) :=
  if c = '\\' then readEscape verbose rest else some (.char c, rest)

/-! ### Lengths -/

variable {verbose : Bool} {text rest : List Char} {a : Atom}

/-- Reading the digits of a code passes over a beginning of the text. -/
theorem readCode_length {value left code : Nat}
    (h : readCode verbose value left text = some (code, rest)) : rest.length ≤ text.length := by
  induction left generalizing value text with
  | zero =>
      obtain ⟨_, rfl⟩ := Prod.mk.inj (Option.some.inj h)
      exact skipBlanks_length verbose text
  | succ left ih =>
      have hskip := skipBlanks_length verbose text
      rw [readCode] at h
      cases hdigit : skipBlanks verbose text with
      | nil => simp [hdigit] at h
      | cons c more =>
          rw [hdigit] at h
          obtain ⟨d, _, h⟩ := Option.bind_eq_some_iff.1 h
          have hmore := ih h
          rw [hdigit, List.length_cons] at hskip
          omega

/-- Reading what follows a backslash passes over a character. -/
theorem readEscape_length (h : readEscape verbose text = some (a, rest)) :
    rest.length < text.length := by
  cases text with
  | nil => simp [readEscape] at h
  | cons c more =>
      rw [readEscape] at h
      cases hsize : codeSize? c with
      | some size =>
          rw [hsize] at h
          obtain ⟨⟨code, after⟩, hcode, h⟩ := Option.bind_eq_some_iff.1 h
          obtain ⟨d, _, h⟩ := Option.map_eq_some_iff.1 h
          obtain ⟨_, rfl⟩ := Prod.mk.inj h
          exact Nat.lt_succ_of_le (readCode_length hcode)
      | none =>
          rw [hsize] at h
          obtain ⟨a, _, h⟩ := Option.map_eq_some_iff.1 h
          obtain ⟨_, rfl⟩ := Prod.mk.inj h
          exact Nat.lt_succ_self _

/-- Reading an atom passes over a beginning of the text. -/
theorem readAtom_length {c : Char} (h : readAtom verbose c text = some (a, rest)) :
    rest.length ≤ text.length := by
  rw [readAtom] at h
  split at h
  · exact Nat.le_of_lt (readEscape_length h)
  · obtain ⟨_, rfl⟩ := Prod.mk.inj (Option.some.inj h)
    exact Nat.le_refl _

end ScriptLexer.Text.Pattern
