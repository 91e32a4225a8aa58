import ScriptLexer.Text.WhiteSpace

/-!
# Blanks in regular expressions

With the flag for verbose expressions, white space and comments count for nothing. A comment
goes from a number sign to the end of the line.

## Main results

* `skipBlanks_length` — skipping blanks passes over a beginning of the text.
-/

namespace ScriptLexer.Text.Pattern

/-- A text after the blanks at its beginning, which can lie in a comment. -/
def afterBlanks (comment : Bool) : List Char → List Char
  | [] => []
  | c :: rest =>
    if comment then afterBlanks (c != '\n') rest
    else if isWhiteSpace c then afterBlanks false rest
    else if c == '#' then afterBlanks true rest
    else c :: rest

/-- A text after the blanks at its beginning, if blanks count for nothing. -/
def skipBlanks (verbose : Bool) (text : List Char) : List Char :=
  if verbose then afterBlanks false text else text

/-- The first character after white space and at most one number sign among it. -/
def peekBeyond (comment : Bool) : List Char → Option Char
  | [] => none
  | c :: rest =>
    if isWhiteSpace c then peekBeyond comment rest
    else if c == '#' && !comment then peekBeyond true rest
    else some c

/-- The character that a minus sign in a class is followed by. Of a comment only the number
sign is passed over. -/
def peekAfterMinus? (verbose : Bool) (text : List Char) : Option Char :=
  if verbose then peekBeyond false text else text.head?

/-- What comes after blanks is no longer than the text. -/
theorem afterBlanks_length (comment : Bool) (text : List Char) :
    (afterBlanks comment text).length ≤ text.length := by
  induction text generalizing comment with
  | nil => exact Nat.le_refl _
  | cons c rest ih =>
      rw [afterBlanks]
      split
      · exact Nat.le_succ_of_le (ih _)
      · split
        · exact Nat.le_succ_of_le (ih _)
        · split
          · exact Nat.le_succ_of_le (ih _)
          · exact Nat.le_refl _

/-- Skipping blanks passes over a beginning of the text. -/
theorem skipBlanks_length (verbose : Bool) (text : List Char) :
    (skipBlanks verbose text).length ≤ text.length := by
  rw [skipBlanks]
  split
  · exact afterBlanks_length false text
  · exact Nat.le_refl _

end ScriptLexer.Text.Pattern
