/-!
# Ranges of code points

A class of characters as ranges of code points. A table holds its ranges in three lists, by the
size of the code points, so that a look-up goes through one of them only.
-/

namespace ScriptLexer.Text

/-- Ranges of code points, whose ends belong to them. -/
structure Table where
  /-- The ranges below U+1000. -/
  low : List (Nat × Nat)
  /-- The ranges from U+1000 up to U+FFFF. -/
  middle : List (Nat × Nat)
  /-- The ranges from U+10000 on. -/
  high : List (Nat × Nat)

namespace Table

/-- Whether a number lies in one of some ranges. -/
def within (ranges : List (Nat × Nat)) (n : Nat) : Bool :=
  ranges.any fun (first, last) => first ≤ n && n ≤ last

/-- Whether a character is in the class of a table. -/
def holds (t : Table) (c : Char) : Bool :=
  if c.toNat < 0x1000 then within t.low c.toNat
  else if c.toNat < 0x10000 then within t.middle c.toNat
  else within t.high c.toNat

end Table

end ScriptLexer.Text
