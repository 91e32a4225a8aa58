import ScriptLexer.Character
import ScriptLexer.Token

/-!
# Items

A script is read as a sequence of items: gaps, which mean nothing, and lexemes. This module
says which item a text begins with and how many characters it has. The decision looks at the
characters of the text alone; lines and positions are kept by the cursor that moves over them.

## Main results

* `Item.first_length_pos` — every item has at least one character.
* `closingLength?_bounds` — a string does not end behind the end of the text.
-/

namespace ScriptLexer

/-! ### Extents -/

/-- The number of digits that a text begins with. -/
def digitsLength (text : List Char) : Nat :=
  (text.takeWhile Char.isDigit).length

/-- The number of characters of the fraction that a text begins with: a point and the digits
after it, of which there has to be one. -/
def fractionLength : List Char → Nat
  | '.' :: rest => if digitsLength rest = 0 then 0 else digitsLength rest + 1
  | _ => 0

/-- The number of characters of the number that a text begins with: its digits and the fraction
that follows them, if there is one. -/
def numberLength (text : List Char) : Nat :=
  digitsLength text + fractionLength (text.drop (digitsLength text))

/-- The number of characters up to and including the quote that closes a string, counted after
its opening quote. A backslash takes the character after it along, whatever that is. There is
none if the text ends before the string does. -/
def closingLength? : List Char → Option Nat
  | [] => none
  | '"' :: _ => some 1
  | '\\' :: [] => none
  | '\\' :: _ :: rest => (closingLength? rest).map (· + 2)
  | _ :: rest => (closingLength? rest).map (· + 1)

/-- The number of characters of a comment after its `#`: all up to the end of the line. -/
def commentLength (text : List Char) : Nat :=
  (text.takeWhile (· != '\n')).length

/-! ### The first item -/

/-- What a text begins with, and the number of its characters. -/
inductive Item where
  /-- A blank, the end of a line or a comment. -/
  | gap (length : Nat)
  /-- A lexeme and its kind. -/
  | lexeme (kind : Kind) (length : Nat)
  deriving DecidableEq

namespace Item

/-- The number of characters of an item. -/
def length : Item → Nat
  | gap n => n
  | lexeme _ n => n

/-- The item that starts with a symbol: the two-character operator if `=` follows directly and
the symbol has such a form, else the symbol itself. -/
def ofSymbol (s : Symbol) (rest : List Char) : Item :=
  match s.withEquals?, rest with
  | some long, '=' :: _ => lexeme (.symbol long) 2
  | _, _ => lexeme (.symbol s) 1

/-- The item that starts with a quote: a string, or an error that takes all the rest. -/
def ofQuote (rest : List Char) : Item :=
  match closingLength? rest with
  | some n => lexeme .string (n + 1)
  | none => lexeme .error (rest.length + 1)

/-- The item that starts with a given word character. -/
def ofWordStart (c : Char) (rest : List Char) : Item :=
  let word := c :: rest.takeWhile Character.continuesWord
  lexeme (.ofWord (String.ofList word)) word.length

/-- The item that a text begins with, the text being the character `c` followed by `rest`. A
character that starts nothing else is an error of its own. -/
def first (c : Char) (rest : List Char) : Item :=
  if Character.isBlank c || c == '\n' then gap 1
  else if c == '#' then gap (commentLength rest + 1)
  else if c == '"' then ofQuote rest
  else if c.isDigit then lexeme .number (numberLength (c :: rest))
  else if Character.startsWord c then ofWordStart c rest
  else match Symbol.ofChar? c with
    | some s => ofSymbol s rest
    | none => lexeme .error 1

end Item

/-! ### Bounds -/

/-- The closing quote of a string is one of the characters after its opening quote. -/
theorem closingLength?_bounds {text : List Char} {n : Nat} (h : closingLength? text = some n) :
    1 ≤ n ∧ n ≤ text.length := by
  fun_induction closingLength? text generalizing n with
  | case1 => cases h
  | case2 => cases h; simp
  | case3 => cases h
  | case4 _ _ ih =>
      obtain ⟨m, hm, rfl⟩ := Option.map_eq_some_iff.1 h
      have hbounds := ih hm
      simp only [List.length_cons]
      omega
  | case5 _ _ _ _ _ ih =>
      obtain ⟨m, hm, rfl⟩ := Option.map_eq_some_iff.1 h
      have hbounds := ih hm
      simp only [List.length_cons]
      omega

namespace Item

/-- Every item has at least one character. -/
theorem first_length_pos (c : Char) (rest : List Char) : 1 ≤ (first c rest).length := by
  unfold first
  split
  · exact Nat.le_refl _
  split
  · simp [length]
  split
  · unfold ofQuote
    split <;> simp [length]
  split
  case isTrue hdigit =>
      have hdigits : 1 ≤ digitsLength (c :: rest) := by simp [digitsLength, hdigit]
      exact Nat.le_trans hdigits (Nat.le_add_right _ _)
  split
  · simp [ofWordStart, length]
  split
  · unfold ofSymbol
    split <;> simp [length]
  · exact Nat.le_refl _

end Item

end ScriptLexer
