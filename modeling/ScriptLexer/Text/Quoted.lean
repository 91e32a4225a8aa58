import ScriptLexer.Text.Hidden
import ScriptLexer.Text.JsonString

/-!
# Quoted texts

A text in double quotes on one line. Quotes and backslashes are escaped; line feed, carriage
return, tab and U+0000 are written with a letter or a zero after the backslash, every other
hidden character with its number in braces.

## Main results

* `lineFeed_notMem_encode` — a quoted text holds no line feed.
-/

namespace ScriptLexer.Text

/-- A number in hexadecimal, in lower case and without leading zeros. -/
def hexadecimal (n : Nat) : List Char :=
  Nat.toDigits 16 n

namespace Quoted

/-- A character inside a quoted text. -/
def encodeChar (c : Char) : List Char :=
  match c with
  | '"' => ['\\', '"']
  | '\\' => ['\\', '\\']
  | '\n' => ['\\', 'n']
  | '\r' => ['\\', 'r']
  | '\t' => ['\\', 't']
  | '\x00' => ['\\', '0']
  | c => if isHidden c then ['\\', 'u', '\x7b'] ++ hexadecimal c.toNat ++ ['\x7d'] else [c]

/-- A text in double quotes. -/
def encode (text : String) : String :=
  String.ofList ('"' :: text.toList.flatMap encodeChar ++ ['"'])

/-! ### One line -/

/-- The digits of a number are the sixteen of them. -/
theorem exists_digit_of_mem_hexadecimal {c : Char} {n : Nat} (h : c ∈ hexadecimal n) :
    ∃ d < 16, c = Nat.digitChar d := by
  induction n using Nat.strongRecOn with
  | _ n ih =>
      by_cases hsmall : n < 16
      · rw [hexadecimal, Nat.toDigits_of_lt_base hsmall] at h
        exact ⟨n, hsmall, List.mem_singleton.mp h⟩
      · rw [hexadecimal, Nat.toDigits_of_base_le (by decide) (by omega), List.mem_append] at h
        cases h with
        | inl h => exact ih (n / 16) (by omega) h
        | inr h => exact ⟨n % 16, by omega, List.mem_singleton.mp h⟩

/-- A number in hexadecimal stands on one line. -/
theorem lineFeed_notMem_hexadecimal (n : Nat) : '\n' ∉ hexadecimal n := by
  have hdigits : ∀ d < 16, '\n' ≠ Nat.digitChar d := by decide
  intro h
  obtain ⟨d, hd, hfeed⟩ := exists_digit_of_mem_hexadecimal h
  exact hdigits d hd hfeed

/-- A character inside a quoted text stands on one line. -/
theorem lineFeed_notMem_encodeChar (c : Char) : '\n' ∉ encodeChar c := by
  unfold encodeChar
  split
  case h_7 _ _ hfeed _ _ _ =>
      split
      · simp [lineFeed_notMem_hexadecimal]
      · exact fun hmem => hfeed (List.mem_singleton.mp hmem).symm
  all_goals decide

/-- A quoted text stands on one line. -/
theorem lineFeed_notMem_encode (text : String) : '\n' ∉ (encode text).toList := by
  simp [encode, lineFeed_notMem_encodeChar]

end Quoted

end ScriptLexer.Text
