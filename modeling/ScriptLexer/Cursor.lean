import ScriptLexer.Item
import ScriptLexer.Text.Utf8

/-!
# Cursors

A cursor stands in a script between the characters of the lexeme that it is reading and the
characters that it has not read yet. It knows where the lexeme starts, in bytes of UTF-8, and
the line on which it stands. It has two moves, `advance` over one character and `mark` the
start of a lexeme; reading an item is `mark` and as many advances as the item has characters.

## Main results

* `advance_rest`, `advanceBy_rest` — moving on drops characters from the rest.
* `advanceBy_lexeme` — after `mark`, the lexeme is what the cursor has moved over.
* `scan_rest_length_lt` — reading an item before the end leaves a shorter rest.
-/

namespace ScriptLexer

/-- A place in a script, between what has been taken of the current lexeme and the rest. -/
structure Cursor where
  /-- The bytes of the script before the current lexeme. -/
  start : Nat
  /-- The characters taken of the current lexeme, the latest first. -/
  taken : List Char
  /-- The characters not read yet. -/
  rest : List Char
  /-- The line of the next character, counted from 1. -/
  line : Nat

namespace Cursor

/-- The cursor at the beginning of a script. -/
def ofSource (source : String) : Cursor :=
  ⟨0, [], source.toList, 1⟩

/-- The bytes of the script before the next character. -/
def position (c : Cursor) : Nat :=
  c.start + Text.byteLength c.taken

/-- The characters taken of the current lexeme, in the order of the script. -/
def lexeme (c : Cursor) : String :=
  String.ofList c.taken.reverse

/-- Moves over one character, and to the next line if it ends one. At the end of the script
the cursor stays where it is. -/
def advance (c : Cursor) : Cursor :=
  match c.rest with
  | [] => c
  | ch :: rest =>
    { c with
      taken := ch :: c.taken
      rest := rest
      line := if ch = '\n' then c.line + 1 else c.line }

/-- Moves over a number of characters. -/
def advanceBy : Nat → Cursor → Cursor
  | 0, c => c
  | n + 1, c => advanceBy n c.advance

/-- Starts a lexeme at the next character. -/
def mark (c : Cursor) : Cursor :=
  { c with start := c.position, taken := [] }

/-- Reads one item: the token that it makes, if it is a lexeme, on the line where it starts,
and the cursor behind it. At the end of the script nothing is read. -/
def scan (c : Cursor) : Option Token × Cursor :=
  match c.rest with
  | [] => (none, c)
  | ch :: rest =>
    match Item.first ch rest with
    | .gap n => (none, advanceBy n c.mark)
    | .lexeme kind n =>
      let behind := advanceBy n c.mark
      (some ⟨kind, behind.lexeme, c.line⟩, behind)

/-! ### Moves -/

variable {c : Cursor} {ch : Char} {rest : List Char}

/-- Starting a lexeme reads nothing. -/
@[simp] theorem mark_rest (c : Cursor) : c.mark.rest = c.rest := rfl

/-- A lexeme starts with nothing taken. -/
@[simp] theorem mark_taken (c : Cursor) : c.mark.taken = [] := rfl

/-- Starting a lexeme stays on the line. -/
@[simp] theorem mark_line (c : Cursor) : c.mark.line = c.line := rfl

/-- Moving over a character drops it from the rest. -/
@[simp] theorem advance_rest (c : Cursor) : c.advance.rest = c.rest.drop 1 := by
  cases hc : c.rest <;> simp [advance, hc]

/-- Before a character, moving on leaves what follows it. -/
theorem advance_rest_of_cons (h : c.rest = ch :: rest) : c.advance.rest = rest := by
  rw [advance_rest, h, List.drop_one, List.tail_cons]

/-- Moving over a character stays in the lexeme. -/
@[simp] theorem advance_start (c : Cursor) : c.advance.start = c.start := by
  unfold advance
  split <;> rfl

/-- A character that is moved over is taken. -/
theorem advance_taken (c : Cursor) : c.advance.taken = (c.rest.take 1).reverse ++ c.taken := by
  cases hc : c.rest <;> simp [advance, hc]

/-- Moving over a line end goes to the next line. -/
theorem advance_line (c : Cursor) :
    c.advance.line = c.line + (c.rest.take 1).count '\n' := by
  cases hc : c.rest with
  | nil => simp [advance, hc]
  | cons ch rest =>
      by_cases hfeed : ch = '\n' <;> simp [advance, hc, hfeed]

/-- Moving over some characters drops them from the rest. -/
@[simp] theorem advanceBy_rest (n : Nat) (c : Cursor) :
    (advanceBy n c).rest = c.rest.drop n := by
  induction n generalizing c with
  | zero => rfl
  | succ n ih => simp [advanceBy, ih]

/-- The characters that are moved over are taken. -/
theorem advanceBy_taken (n : Nat) (c : Cursor) :
    (advanceBy n c).taken = (c.rest.take n).reverse ++ c.taken := by
  induction n generalizing c with
  | zero => rfl
  | succ n ih =>
      rw [advanceBy, ih, advance_taken, advance_rest]
      cases c.rest <;> simp

/-- The line goes up with every line end that is moved over. -/
theorem advanceBy_line (n : Nat) (c : Cursor) :
    (advanceBy n c).line = c.line + (c.rest.take n).count '\n' := by
  induction n generalizing c with
  | zero => rfl
  | succ n ih =>
      rw [advanceBy, ih, advance_line, advance_rest]
      cases c.rest with
      | nil => simp
      | cons ch rest =>
          simp only [List.take_succ_cons, List.take_zero, List.drop_succ_cons, List.drop_zero,
            List.count_cons, List.count_nil]
          omega

/-- Characters may be moved over in two goes. -/
theorem advanceBy_add (m n : Nat) (c : Cursor) :
    advanceBy (m + n) c = advanceBy n (advanceBy m c) := by
  induction m generalizing c with
  | zero => rw [Nat.zero_add, advanceBy]
  | succ m ih => rw [Nat.add_right_comm, advanceBy, advanceBy, ih]

/-- From a lexeme's start on, the lexeme is what the cursor has moved over. -/
theorem advanceBy_lexeme (n : Nat) (c : Cursor) :
    (advanceBy n c.mark).lexeme = String.ofList (c.rest.take n) := by
  simp [lexeme, advanceBy_taken]

/-! ### Reading an item -/

/-- At the end of the script nothing is read. -/
theorem scan_of_rest_nil (h : c.rest = []) : c.scan = (none, c) := by
  simp [scan, h]

/-- An item is read by moving over its characters. -/
theorem scan_snd (h : c.rest = ch :: rest) :
    c.scan.2 = advanceBy (Item.first ch rest).length c.mark := by
  cases hitem : Item.first ch rest <;> simp [scan, h, hitem, Item.length]

/-- Reading an item before the end leaves a shorter rest. -/
theorem scan_rest_length_lt (h : c.rest ≠ []) : c.scan.2.rest.length < c.rest.length := by
  obtain ⟨ch, rest, hc⟩ := List.exists_cons_of_ne_nil h
  have hpos := Item.first_length_pos ch rest
  rw [scan_snd hc, advanceBy_rest, mark_rest, List.length_drop, hc]
  simp only [List.length_cons]
  omega

end Cursor

end ScriptLexer
