import Mathlib.Data.List.Forall2
import ScriptLexer.Text.Terminal

/-!
# Escapes

Three kinds of texts have some of their characters escaped: quoted texts, JSON strings and the
messages of a log. An escape is a backslash with the letter of the character behind it, if it has
a letter, or else with its number in hexadecimal. Which characters have a letter, which have a
number and how the number is written is told here for each kind by itself, and what the functions
write is then shown to be that.

## Main results

* `Escapes.Spells.unique`, `Escapes.Writes.unique` — a text is written in one way only.
* `Quoted.exists_writes`, `JsonString.exists_writes`, `Terminal.writes_escape` — the functions
  write texts with these escapes.
-/

namespace ScriptLexer.Text

/-- Things that are written one after the other, each in some way. -/
def InTurn {α : Type} (R : α → String → Prop) (xs : List α) (text : String) : Prop :=
  ∃ texts, List.Forall₂ R xs texts ∧ text = String.join texts

section InTurn

variable {α β : Type} {R : α → String → Prop} {xs : List α} {x : α} {text text' rest : String}

/-- Where nothing is to be written, nothing is. -/
theorem InTurn.nil : InTurn R [] "" :=
  ⟨[], .nil, rfl⟩

/-- The first thing is written in front of the others. -/
theorem InTurn.cons (h : R x text) (hrest : InTurn R xs rest) :
    InTurn R (x :: xs) (text ++ rest) := by
  obtain ⟨texts, htexts, rfl⟩ := hrest
  exact ⟨text :: texts, .cons h htexts, String.join_cons.symm⟩

/-- What a function writes for each of some things is written in turn. -/
theorem InTurn.join {f : β → String} {g : β → α} {ys : List β} (h : ∀ y ∈ ys, R (g y) (f y)) :
    InTurn R (ys.map g) (String.join (ys.map f)) := by
  induction ys with
  | nil => exact .nil
  | cons y ys ih =>
      rw [List.map_cons, List.map_cons, String.join_cons]
      exact .cons (h y List.mem_cons_self) (ih fun z hz => h z (List.mem_cons_of_mem _ hz))

/-- If each thing is written in one way only, all of them are. -/
theorem InTurn.unique (hR : Relator.RightUnique R) (h : InTurn R xs text)
    (h' : InTurn R xs text') : text = text' := by
  obtain ⟨texts, htexts, rfl⟩ := h
  obtain ⟨texts', htexts', rfl⟩ := h'
  rw [hR.forall₂ htexts htexts']

end InTurn

/-! ### Ways to escape -/

/-- Which characters of a text are escaped, and how. -/
structure Escapes where
  /-- The characters that have a letter, with their letters. -/
  letters : List (Char × Char)
  /-- The characters without a letter that are escaped all the same. -/
  coded : Char → Prop
  /-- What stands behind the backslash for the number of such a character. -/
  code : ℕ → List Char
  /-- No character has two letters. -/
  letter_unique : ∀ x ∈ letters, ∀ y ∈ letters, x.1 = y.1 → x.2 = y.2

namespace Escapes

/-- `E.Spells c w`: the character `c` is written as `w`. -/
inductive Spells (E : Escapes) : Char → List Char → Prop
  | letter {c l : Char} : (c, l) ∈ E.letters → Spells E c ['\\', l]
  | code {c : Char} : c ∉ E.letters.map Prod.fst → E.coded c →
      Spells E c ('\\' :: E.code c.toNat)
  | plain {c : Char} : c ∉ E.letters.map Prod.fst → ¬ E.coded c → Spells E c [c]

/-- `E.Writes text written`: the text is written character by character. -/
def Writes (E : Escapes) (text written : String) : Prop :=
  ∃ ws, List.Forall₂ E.Spells text.toList ws ∧ written.toList = ws.flatten

/-- The escapes of quoted texts: six letters, and numbers in braces for hidden characters. -/
def quoted : Escapes where
  letters := [('"', '"'), ('\\', '\\'), ('\n', 'n'), ('\r', 'r'), ('\t', 't'), ('\x00', '0')]
  coded c := isHidden c = true
  code n := 'u' :: '\x7b' :: (Nat.toDigits 16 n ++ ['\x7d'])
  letter_unique := by decide

/-- The escapes of JSON strings: seven letters, and four digits for any other character below
U+0020. -/
def json : Escapes where
  letters := [('"', '"'), ('\\', '\\'), ('\x08', 'b'), ('\x0c', 'f'), ('\n', 'n'), ('\r', 'r'),
    ('\t', 't')]
  coded c := c.toNat < 0x20
  code n := 'u' :: (Nat.toDigits 16 n).leftpad 4 '0'
  letter_unique := by decide

/-- The escapes of log messages: no letters, two digits for five controls of ASCII, and numbers
in braces for the controls beyond. -/
def message : Escapes where
  letters := []
  coded c := c ∈ ['\x07', '\x08', '\x0c', '\x1b', '\x7f'] ∨ 0x80 ≤ c.toNat ∧ c.toNat ≤ 0x9f
  code n :=
    if n < 0x80 then 'x' :: (Nat.toDigits 16 n).leftpad 2 '0'
    else 'u' :: '\x7b' :: (Nat.toDigits 16 n ++ ['\x7d'])
  letter_unique := by decide

variable {E : Escapes} {c : Char} {w w' : List Char} {text written written' : String}

/-- A character is written in one way only. -/
theorem Spells.unique (h : E.Spells c w) (h' : E.Spells c w') : w = w' := by
  cases h with
  | letter hl =>
      cases h' with
      | letter hl' =>
          obtain rfl := E.letter_unique _ hl _ hl' rfl
          rfl
      | code hnone | plain hnone => exact absurd (List.mem_map_of_mem hl) hnone
  | code hnone hcoded =>
      cases h' with
      | letter hl => exact absurd (List.mem_map_of_mem hl) hnone
      | code => rfl
      | plain _ hplain => exact absurd hcoded hplain
  | plain hnone hplain =>
      cases h' with
      | letter hl => exact absurd (List.mem_map_of_mem hl) hnone
      | code _ hcoded => exact absurd hcoded hplain
      | plain => rfl

/-- A text is written in one way only. -/
theorem Writes.unique (h : E.Writes text written) (h' : E.Writes text written') :
    written = written' := by
  obtain ⟨ws, hws, hwritten⟩ := h
  obtain ⟨ws', hws', hwritten'⟩ := h'
  have hspells : Relator.RightUnique E.Spells := fun _ _ _ => Spells.unique
  obtain rfl := hspells.forall₂ hws hws'
  exact String.toList_injective (hwritten.trans hwritten'.symm)

/-- What is written character by character is written. -/
theorem writes_flatMap {f : Char → List Char} (h : ∀ c, E.Spells c (f c)) (text : String) :
    E.Writes text (String.ofList (text.toList.flatMap f)) := by
  refine ⟨text.toList.map f, List.forall₂_map_right_iff.mpr (List.forall₂_same.mpr ?_), ?_⟩
  · exact fun c _ => h c
  · rw [String.toList_ofList, List.flatMap_def]

end Escapes

/-! ### What the functions write -/

/-- What is written for a character of a quoted text. -/
theorem Quoted.spells_encodeChar (c : Char) : Escapes.quoted.Spells c (encodeChar c) := by
  unfold encodeChar
  split
  case h_7 hquote hbackslash hfeed hreturn htab hnull =>
      have hnone : c ∉ Escapes.quoted.letters.map Prod.fst := by
        simp only [Escapes.quoted, List.map_cons, List.map_nil, List.mem_cons, List.not_mem_nil,
          or_false, not_or]
        exact ⟨hquote, hbackslash, hfeed, hreturn, htab, hnull⟩
      split
      case isTrue hhidden => exact .code hnone hhidden
      case isFalse hhidden => exact .plain hnone hhidden
  all_goals exact .letter (by decide)

/-- A quoted text is the text with its escapes, in quotes. -/
theorem Quoted.exists_writes (text : String) :
    ∃ written, Escapes.quoted.Writes text written ∧
      encode text = "\"" ++ written ++ "\"" := by
  refine ⟨_, Escapes.writes_flatMap spells_encodeChar text, ?_⟩
  rw [encode, ← String.toList_inj]
  simp

/-- What is written for a character of a JSON string. -/
theorem JsonString.spells_encodeChar (c : Char) : Escapes.json.Spells c (encodeChar c) := by
  have hcode : ∀ n < 0x20, 'u' :: '0' :: '0' :: [Nat.digitChar (n / 16), Nat.digitChar (n % 16)] =
      Escapes.json.code n := by decide
  unfold encodeChar
  split
  case h_8 hquote hbackslash hback hform hfeed hreturn htab =>
      have hnone : c ∉ Escapes.json.letters.map Prod.fst := by
        simp only [Escapes.json, List.map_cons, List.map_nil, List.mem_cons, List.not_mem_nil,
          or_false, not_or]
        exact ⟨hquote, hbackslash, hback, hform, hfeed, hreturn, htab⟩
      split
      case isTrue hlow =>
          rw [hcode _ hlow]
          exact .code hnone hlow
      case isFalse hlow => exact .plain hnone hlow
  all_goals exact .letter (by decide)

/-- A JSON string is the text with its escapes, in quotes. -/
theorem JsonString.exists_writes (text : String) :
    ∃ written, Escapes.json.Writes text written ∧ encode text = "\"" ++ written ++ "\"" := by
  refine ⟨_, Escapes.writes_flatMap spells_encodeChar text, ?_⟩
  rw [encode, ← String.toList_inj]
  simp

/-- What is written for a character of a log message. -/
theorem Terminal.spells_escapeChar (c : Char) : Escapes.message.Spells c (escapeChar c) := by
  have hnone : c ∉ Escapes.message.letters.map Prod.fst := List.not_mem_nil
  have hcode : ∀ c ∈ ['\x07', '\x08', '\x0c', '\x1b', '\x7f'],
      'x' :: [Nat.digitChar (c.toNat / 16), Nat.digitChar (c.toNat % 16)] =
        Escapes.message.code c.toNat := by
    -- one member after the other, for as it stands this would be decided over all characters
    simp only [List.forall_mem_cons, List.not_mem_nil, false_implies, implies_true]
    decide
  unfold escapeChar
  split
  case isTrue hcontrol =>
      rw [hcode c hcontrol]
      exact .code hnone (.inl hcontrol)
  case isFalse hcontrol =>
      split
      case isTrue hbeyond =>
          have hbraces : Escapes.message.code c.toNat =
              'u' :: '\x7b' :: (Nat.toDigits 16 c.toNat ++ ['\x7d']) :=
            if_neg (Nat.not_lt.mpr hbeyond.1)
          have hspells := Escapes.Spells.code hnone (.inr hbeyond)
          rwa [hbraces] at hspells
      case isFalse hbeyond => exact .plain hnone (not_or.mpr ⟨hcontrol, hbeyond⟩)

/-- A log message is shown with its escapes. -/
theorem Terminal.writes_escape (text : String) : Escapes.message.Writes text (escape text) :=
  Escapes.writes_flatMap spells_escapeChar text

end ScriptLexer.Text
