/-!
# Rows

Expressions that stand side by side, as parts of a sequence, of alternatives or of a class. Of
each part, what matters is how deep it is nested: a character has depth 0. A row of two parts
or more is a level of nesting; a single part is not nested in its row.
-/

namespace ScriptLexer.Text.Pattern

/-- Expressions side by side. -/
structure Row where
  /-- The number of parts. -/
  size : Nat
  /-- The depth of the deepest part. -/
  deepest : Nat
  deriving DecidableEq

namespace Row

/-- No expression. -/
def empty : Row :=
  ⟨0, 0⟩

/-- A row with one more part of the given depth. -/
def add (r : Row) (depth : Nat) : Row :=
  ⟨r.size + 1, max r.deepest depth⟩

/-- A row one of whose parts is replaced by a deeper one. -/
def deepen (r : Row) (depth : Nat) : Row :=
  { r with deepest := max r.deepest depth }

/-- How deep a row is nested. -/
def depth (r : Row) : Nat :=
  if r.size ≤ 1 then r.deepest else r.deepest + 1

end Row

end ScriptLexer.Text.Pattern
