import Mathlib.Data.Nat.Notation
import Mathlib.Logic.Function.Iterate
import ScriptLexer.Session

/-!
# Positions of a Cursor

A cursor carries two numbers that its moves never look at, the bytes before its lexeme and the
line. `Cursor.StandsIn source before c` says what keeps them right: the script is `before`, the
characters taken and the rest, the lexeme starts at the length of `before`, and the line is one
more than the line ends in what is behind the cursor. Every move keeps this, so it holds at all
points of all scans of a script, however often it is scanned.

A cursor that stands in a script is `Cursor.Sound` there: its start and its position are in
order, in bounds and between characters, the parts of the script that they cut out are the
lexeme and the rest, and the line is that of the position.

## Main results

* `StandsIn.mark`, `StandsIn.advance`, `StandsIn.advanceBy` — what each move keeps.
* `exists_standsIn_reached` — a cursor stands in its script at every point of every scan.
* `StandsIn.sound` — a cursor that stands in a script is sound there.
-/

namespace ScriptLexer

namespace Cursor

/-- `StandsIn source before c`: the cursor stands in the script `source`, with the characters
`before` in front of its lexeme. -/
structure StandsIn (source : String) (before : List Char) (c : Cursor) : Prop where
  text_eq : source.toList = before ++ (c.taken.reverse ++ c.rest)
  start_eq : c.start = Text.byteLength before
  line_eq : c.line = 1 + (before ++ c.taken.reverse).count '\n'

/-- What the numbers of a cursor may be relied on for. -/
structure Sound (source : String) (c : Cursor) : Prop where
  start_le : c.start ≤ c.position
  position_le : c.position ≤ source.utf8ByteSize
  /-- No character of the script lies across the start of the lexeme. -/
  start_isValid : (⟨c.start⟩ : String.Pos.Raw).IsValid source
  /-- No character of the script lies across the position. -/
  position_isValid : (⟨c.position⟩ : String.Pos.Raw).IsValid source
  slice?_eq : Text.slice? source.toList c.start c.position = some c.lexeme.toList
  dropBytes?_eq : Text.dropBytes? c.position source.toList = some c.rest
  /-- The line is one more than the line ends in as many bytes as are behind the cursor. -/
  line_eq : (Text.takeBytes? c.position source.toList).map (1 + ·.count '\n') = some c.line
  line_le : c.line ≤ source.utf8ByteSize + 1

variable {source : String} {before : List Char} {c : Cursor}

/-! ### Moves -/

/-- A new cursor stands before the first character of the script. -/
theorem standsIn_ofSource (source : String) : StandsIn source [] (ofSource source) :=
  ⟨rfl, rfl, rfl⟩

namespace StandsIn

/-- To mark the start of a lexeme is to leave the characters of the one before it behind. -/
theorem mark (h : StandsIn source before c) :
    StandsIn source (before ++ c.taken.reverse) c.mark where
  text_eq := by simpa using h.text_eq
  start_eq := by
    rw [Cursor.mark, position, h.start_eq, Text.byteLength_append, Text.byteLength_reverse]
  line_eq := by simpa using h.line_eq

/-- To take a character keeps the cursor in the script. -/
theorem advance (h : StandsIn source before c) : StandsIn source before c.advance := by
  cases hc : c.rest with
  | nil =>
      have hstays : c.advance = c := by simp [Cursor.advance, hc]
      rwa [hstays]
  | cons ch rest =>
      refine ⟨?_, ?_, ?_⟩
      · rw [h.text_eq, advance_taken, advance_rest, hc]
        simp
      · rw [advance_start, h.start_eq]
      · rw [advance_line, advance_taken, h.line_eq, hc]
        simp only [List.take_succ_cons, List.take_zero, List.reverse_append,
          List.reverse_reverse, List.count_append]
        omega

/-- To take any number of characters keeps the cursor in the script. -/
theorem advanceBy (h : StandsIn source before c) (n : ℕ) :
    StandsIn source before (advanceBy n c) := by
  induction n generalizing c with
  | zero => exact h
  | succ n ih => exact ih h.advance

end StandsIn

/-- Scanning an item keeps the cursor in the script. -/
theorem exists_standsIn_scan (h : ∃ before, StandsIn source before c) :
    ∃ before, StandsIn source before c.scan.2 := by
  cases hc : c.rest with
  | nil => rwa [scan_of_rest_nil hc]
  | cons ch rest =>
      obtain ⟨before, h⟩ := h
      rw [scan_snd hc]
      exact ⟨_, h.mark.advanceBy _⟩

/-! ### Numbers -/

namespace StandsIn

/-- The characters behind the cursor, in the order of the script. -/
theorem append_rest (h : StandsIn source before c) :
    (before ++ c.taken.reverse) ++ c.rest = source.toList := by
  rw [List.append_assoc, h.text_eq]

/-- The position is the number of bytes of all characters behind the cursor. -/
theorem position_eq (h : StandsIn source before c) :
    c.position = Text.byteLength (before ++ c.taken.reverse) := by
  rw [position, h.start_eq, Text.byteLength_append, Text.byteLength_reverse]

/-- What is behind a cursor and what is in front of it make up the size of the script. -/
theorem position_add (h : StandsIn source before c) :
    c.position + Text.byteLength c.rest = source.utf8ByteSize := by
  rw [h.position_eq, ← Text.byteLength_append, h.append_rest, Text.byteLength_toList]

/-- The position is within the script. -/
theorem position_le (h : StandsIn source before c) : c.position ≤ source.utf8ByteSize := by
  have hposition := h.position_add
  omega

/-- There are no more characters in front of a cursor than bytes in the script. -/
theorem length_rest_le (h : StandsIn source before c) : c.rest.length ≤ source.utf8ByteSize := by
  have hlength := Text.length_le_byteLength c.rest
  have hsize := h.position_add
  omega

/-- There are no more line ends behind a cursor than bytes. -/
theorem line_le (h : StandsIn source before c) : c.line ≤ source.utf8ByteSize + 1 := by
  have hcount := List.count_le_length (l := before ++ c.taken.reverse) (a := '\n')
  have hlength := Text.length_le_byteLength (before ++ c.taken.reverse)
  have hposition := h.position_le
  rw [h.position_eq] at hposition
  rw [h.line_eq]
  omega

/-- From the position on, the script has the characters that are ahead of the cursor. -/
theorem dropBytes?_eq (h : StandsIn source before c) :
    Text.dropBytes? c.position source.toList = some c.rest := by
  rw [← h.append_rest, h.position_eq, Text.dropBytes?_append]

/-- From the start to the position, the script has the characters of the lexeme. -/
theorem slice?_eq (h : StandsIn source before c) :
    Text.slice? source.toList c.start c.position = some c.lexeme.toList := by
  rw [h.text_eq, h.position_eq, h.start_eq, Text.byteLength_append, Text.slice?_append, lexeme,
    String.toList_ofList]

end StandsIn

/-- The length of a prefix of a script is between two of its characters. -/
theorem isValid_byteLength {front back : List Char} (h : front ++ back = source.toList) :
    (⟨Text.byteLength front⟩ : String.Pos.Raw).IsValid source := by
  rw [String.Pos.Raw.isValid_iff_exists_append]
  refine ⟨String.ofList front, String.ofList back, ?_, ?_⟩
  · rw [← String.ofList_append, h, String.ofList_toList]
  · have hsize := Text.byteLength_toList (String.ofList front)
    rw [String.toList_ofList] at hsize
    rw [hsize]
    rfl

/-- **A cursor that stands in a script is sound there.** -/
theorem StandsIn.sound (h : StandsIn source before c) : Sound source c where
  start_le := Nat.le_add_right _ _
  position_le := h.position_le
  start_isValid := by
    rw [h.start_eq]
    exact isValid_byteLength h.text_eq.symm
  position_isValid := by
    rw [h.position_eq]
    exact isValid_byteLength h.append_rest
  slice?_eq := h.slice?_eq
  dropBytes?_eq := h.dropBytes?_eq
  line_eq := by
    rw [← h.append_rest, h.position_eq, Text.takeBytes?_append, h.line_eq]
    rfl
  line_le := h.line_le

end Cursor

/-! ### All points of all scans -/

namespace Session

open Log (Journal)
open Cursor (StandsIn)

variable {source : String} {s : Session}

/-- The session on a script after `k` scans. -/
def scans (source : String) (k : ℕ) : Session :=
  (fun s => (s.tokenizeAll .silent).1)^[k] (start source)

/-- The session on a script after `k` scans and the first `n` items of one more. -/
def reached (source : String) (k n : ℕ) : Session :=
  (drain n (scans source k) .silent).1

/-- One more scan is a scan of the session that is left of those before it. -/
theorem scans_succ (source : String) (k : ℕ) :
    scans source (k + 1) = ((scans source k).tokenizeAll .silent).1 :=
  Function.iterate_succ_apply' _ _ _

/-- A step keeps the cursor in the script. -/
theorem exists_standsIn_step (log : Journal) (h : ∃ before, StandsIn source before s.cursor) :
    ∃ before, StandsIn source before (s.step log).1.cursor := by
  rw [step_cursor]
  exact Cursor.exists_standsIn_scan h

/-- Any number of steps keeps the cursor in the script. -/
theorem exists_standsIn_drain (n : ℕ) (log : Journal)
    (h : ∃ before, StandsIn source before s.cursor) :
    ∃ before, StandsIn source before (drain n s log).1.cursor := by
  induction n generalizing s log with
  | zero => exact h
  | succ n ih =>
      unfold drain
      split
      · exact h
      · exact ih _ (exists_standsIn_step log h)

/-- After any number of scans the cursor stands in the script. -/
theorem exists_standsIn_scans (source : String) (k : ℕ) :
    ∃ before, StandsIn source before (scans source k).cursor := by
  induction k with
  | zero => exact ⟨[], Cursor.standsIn_ofSource source⟩
  | succ k ih =>
      rw [scans_succ]
      exact exists_standsIn_drain _ _ ih

/-- A cursor stands in its script at every point of every scan. -/
theorem exists_standsIn_reached (source : String) (k n : ℕ) :
    ∃ before, StandsIn source before (reached source k n).cursor :=
  exists_standsIn_drain n .silent (exists_standsIn_scans source k)

end Session

end ScriptLexer
