/-!
# Decimal numbers

Numbers that are written in ASCII digits, with any number of leading zeros, and those that a
plus sign may precede. A number in scientific notation may have a fraction and an exponent
besides.
-/

namespace ScriptLexer.Text

/-- The decimal value of a non-empty text of ASCII digits. -/
def decimal? (text : List Char) : Option Nat :=
  if text ≠ [] ∧ text.all Char.isDigit then
    some (text.foldl (fun n c => 10 * n + (c.toNat - '0'.toNat)) 0)
  else none

/-- The value of a text of ASCII digits that a plus sign may precede. -/
def signedDecimal? : List Char → Option Nat
  | '+' :: digits => decimal? digits
  | digits => decimal? digits

/-- A text without a sign at its beginning. -/
def unsigned : List Char → List Char
  | '+' :: rest => rest
  | '-' :: rest => rest
  | text => text

/-- Whether a text is an exponent, or empty. -/
def isExponent : List Char → Bool
  | [] => true
  | c :: rest => (c == 'e' || c == 'E') && (decimal? (unsigned rest)).isSome

/-- Whether a text is a number in scientific notation, or the name of one that is not finite. -/
def isScientific (text : List Char) : Bool :=
  let size := unsigned text
  let whole := size.takeWhile Char.isDigit
  let named := ["inf", "infinity", "nan"].any fun name => size.map Char.toLower == name.toList
  named || match size.dropWhile Char.isDigit with
    | '.' :: rest =>
      (whole != [] || rest.takeWhile Char.isDigit != []) && isExponent (rest.dropWhile Char.isDigit)
    | rest => whole != [] && isExponent rest

end ScriptLexer.Text
