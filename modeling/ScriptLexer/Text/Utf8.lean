/-!
# Lengths and parts in bytes

The length of characters in bytes of UTF-8, and the part of a text between two such lengths.

## Main results

* `byteLength_append` — lengths add up.
* `byteLength_toList` — the length of a text is its size in UTF-8.
* `dropBytes?_append` — a part that is dropped by its length leaves the rest.
* `slice?_append` — the part between two lengths is what lies between them.
-/

namespace ScriptLexer.Text

/-- The number of bytes of characters in UTF-8. -/
def byteLength : List Char → Nat
  | [] => 0
  | c :: text => c.utf8Size + byteLength text

/-- What is left of a text without its first bytes, if these are whole characters. -/
def dropBytes? : Nat → List Char → Option (List Char)
  | 0, text => some text
  | _ + 1, [] => none
  | n + 1, c :: rest => if c.utf8Size ≤ n + 1 then dropBytes? (n + 1 - c.utf8Size) rest else none

/-- The first bytes of a text, if these are whole characters. -/
def takeBytes? : Nat → List Char → Option (List Char)
  | 0, _ => some []
  | _ + 1, [] => none
  | n + 1, c :: rest =>
    if c.utf8Size ≤ n + 1 then (takeBytes? (n + 1 - c.utf8Size) rest).map (c :: ·) else none

/-- The part of a text from one number of bytes up to another, if it is cut between
characters. -/
def slice? (text : List Char) (first last : Nat) : Option (List Char) :=
  (dropBytes? first text).bind (takeBytes? (last - first))

/-- No characters have no bytes. -/
@[simp] theorem byteLength_nil : byteLength [] = 0 := rfl

/-- The first character has its bytes before the others. -/
@[simp] theorem byteLength_cons (c : Char) (text : List Char) :
    byteLength (c :: text) = c.utf8Size + byteLength text := rfl

/-- Lengths add up. -/
@[simp] theorem byteLength_append (xs ys : List Char) :
    byteLength (xs ++ ys) = byteLength xs + byteLength ys := by
  induction xs with
  | nil => simp
  | cons c xs ih => rw [List.cons_append, byteLength_cons, byteLength_cons, ih, Nat.add_assoc]

/-- The order of characters makes no difference to their length. -/
@[simp] theorem byteLength_reverse (xs : List Char) : byteLength xs.reverse = byteLength xs := by
  induction xs with
  | nil => rfl
  | cons c xs ih =>
      rw [List.reverse_cons, byteLength_append, ih, byteLength_cons, byteLength_cons,
        byteLength_nil, Nat.add_zero, Nat.add_comm]

/-- A character has at least one byte. -/
theorem length_le_byteLength (xs : List Char) : xs.length ≤ byteLength xs := by
  induction xs with
  | nil => exact Nat.le_refl 0
  | cons c xs ih =>
      have hpos := c.utf8Size_pos
      rw [List.length_cons, byteLength_cons]
      omega

/-- The length of a text is its size in UTF-8. -/
theorem byteLength_toList (s : String) : byteLength s.toList = s.utf8ByteSize := by
  obtain ⟨xs, rfl⟩ := s.exists_eq_ofList
  rw [String.toList_ofList]
  induction xs with
  | nil => rfl
  | cons c xs ih =>
      rw [byteLength_cons, ih, String.ofList_cons, String.utf8ByteSize_append,
        String.utf8ByteSize_singleton]

/-! ### Parts -/

/-- A part that is dropped by its length leaves the rest. -/
theorem dropBytes?_append (xs ys : List Char) :
    dropBytes? (byteLength xs) (xs ++ ys) = some ys := by
  induction xs with
  | nil => simp [dropBytes?]
  | cons c xs ih =>
      obtain ⟨n, hn⟩ : ∃ n, c.utf8Size + byteLength xs = n + 1 :=
        ⟨c.utf8Size + byteLength xs - 1, by have hpos := c.utf8Size_pos; omega⟩
      have hfits : c.utf8Size ≤ n + 1 := by omega
      have hrest : n + 1 - c.utf8Size = byteLength xs := by omega
      rw [byteLength_cons, hn, List.cons_append, dropBytes?, if_pos hfits, hrest, ih]

/-- A part that is taken by its length is there. -/
theorem takeBytes?_append (xs ys : List Char) :
    takeBytes? (byteLength xs) (xs ++ ys) = some xs := by
  induction xs with
  | nil => simp [takeBytes?]
  | cons c xs ih =>
      obtain ⟨n, hn⟩ : ∃ n, c.utf8Size + byteLength xs = n + 1 :=
        ⟨c.utf8Size + byteLength xs - 1, by have hpos := c.utf8Size_pos; omega⟩
      have hfits : c.utf8Size ≤ n + 1 := by omega
      have hrest : n + 1 - c.utf8Size = byteLength xs := by omega
      rw [byteLength_cons, hn, List.cons_append, takeBytes?, if_pos hfits, hrest, ih,
        Option.map_some]

/-- The part between two lengths is what lies between them. -/
theorem slice?_append (xs ys zs : List Char) :
    slice? (xs ++ (ys ++ zs)) (byteLength xs) (byteLength xs + byteLength ys) = some ys := by
  rw [slice?, dropBytes?_append, Option.bind_some, Nat.add_sub_cancel_left, takeBytes?_append]

end ScriptLexer.Text
