/-!
# Parts of a text

A text cut at every occurrence of a separating character. The empty text is one part, and there
is always one part more than there are separators.

## Main results

* `parts_append_cons` — what stands before the first separator is the first part.
* `parts_length` — there is one part more than there are separators.
-/

namespace ScriptLexer.Text

/-- The parts of a text between separators, empty ones included. -/
def parts (separator : Char) : List Char → List (List Char)
  | [] => [[]]
  | c :: rest =>
    if c = separator then [] :: parts separator rest
    else match parts separator rest with
      | part :: more => (c :: part) :: more
      | [] => [[c]]

variable {separator : Char}

/-- A text has at least one part. -/
theorem parts_ne_nil (separator : Char) (text : List Char) : parts separator text ≠ [] := by
  cases text with
  | nil => exact List.cons_ne_nil _ _
  | cons c rest =>
      rw [parts]
      split
      · exact List.cons_ne_nil _ _
      · cases parts separator rest <;> exact List.cons_ne_nil _ _

/-- What stands before the first separator is the first part. -/
theorem parts_append_cons {part : List Char} (h : separator ∉ part) (rest : List Char) :
    parts separator (part ++ separator :: rest) = part :: parts separator rest := by
  induction part with
  | nil => simp [parts]
  | cons c part ih =>
      have hne : c ≠ separator := fun hsame => h (hsame ▸ List.mem_cons_self ..)
      have hpart : separator ∉ part := fun hmem => h (List.mem_cons_of_mem _ hmem)
      rw [List.cons_append, parts, if_neg hne, ih hpart]

/-- There is one part more than there are separators. -/
theorem parts_length (separator : Char) (text : List Char) :
    (parts separator text).length = text.count separator + 1 := by
  induction text with
  | nil => rfl
  | cons c rest ih =>
      by_cases hc : c = separator
      · rw [parts, if_pos hc, List.length_cons, ih, hc, List.count_cons_self]
      · cases hrest : parts separator rest with
        | nil => exact absurd hrest (parts_ne_nil separator rest)
        | cons part more =>
            rw [parts, if_neg hc, hrest, List.count_cons_of_ne hc, ← ih, hrest]
            rfl

end ScriptLexer.Text
