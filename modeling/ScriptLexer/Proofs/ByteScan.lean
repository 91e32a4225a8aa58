import ScriptLexer.Proofs.Position
import ScriptLexer.Proofs.Scan

/-!
# Scanning by Byte Offsets

A cursor holds the characters that it has taken and those to come. A byte scanner holds neither:
it knows three numbers, where its lexeme starts, where the next character starts and the line,
and has to cut the script at these offsets for every look at it. Whatever can go wrong with that
is a missing result here: a cut out of bounds or inside a character, a lexeme that ends before
it starts, a sum that does not fit into a machine word, a loop that takes more turns than the
script has bytes.

## Convention

Words have `bits` bits and sums of words that do not fit are missing. A look beyond the end of
the script shows a sentinel, the character with the code 0. As that character may as well occur
in the script, the sentinel stops only the loops over digits and over words, where it is in
neither class; the loops over comments and strings ask for the end besides.

## Main results

* `scan?_eq` — reading an item by offsets is reading it by a cursor.
* `items?_eq`, `tokenizeAll?_eq` — so are any number of items, and a whole scan.
* `reached_works` — no operation fails at any point of any scan of a script.
-/

namespace ScriptLexer

namespace ByteScan

open Grammar (closingLength?_escape closingLength?_plain exists_body_of_closingLength?)

/-- Where a byte scanner stands. -/
structure Offsets where
  /-- The bytes of the script before the current lexeme. -/
  start : ℕ
  /-- The bytes of the script before the next character. -/
  next : ℕ
  /-- The line, counted from 1. -/
  line : ℕ
  deriving DecidableEq

/-- The character that is seen where there is none. -/
def sentinel : Char := '\x00'

/-- The sum of two words, if it does not overflow. -/
def addWord? (bits a b : ℕ) : Option ℕ :=
  if a + b < 2 ^ bits then some (a + b) else none

/-- Goes on for as long as it is told to. There is no result if that is for more than a given
number of turns. -/
def loop? {σ : Type} (goesOn : σ → Option Bool) (body : σ → Option σ) : ℕ → σ → Option σ
  | 0, s => do if ← goesOn s then none else some s
  | n + 1, s => do if ← goesOn s then loop? goesOn body n (← body s) else some s

section Scanner

variable (bits : ℕ) (source : String)

/-- Whether no character is left. -/
def atEnd (o : Offsets) : Bool :=
  decide (source.utf8ByteSize ≤ o.next)

/-- Looks at the `n`th character from the next one on, counted from 0. -/
def peek? (n : ℕ) (o : Offsets) : Option Char := do
  let rest ← Text.dropBytes? o.next source.toList
  some (rest[n]?.getD sentinel)

/-- Cuts the lexeme out of the script. -/
def lexeme? (o : Offsets) : Option String :=
  if o.start ≤ o.next then
    (Text.slice? source.toList o.start o.next).map String.ofList
  else none

/-- Takes the next character. At the end that is the sentinel, and the scanner stays. -/
def advance? (o : Offsets) : Option (Char × Offsets) := do
  let c ← peek? source 0 o
  if atEnd source o then some (c, o)
  else
    let next ← addWord? bits o.next c.utf8Size
    some (c, { o with next := next })

/-- Takes the next character, whatever it is. -/
def skip? (o : Offsets) : Option Offsets := do
  let (_, o) ← advance? bits source o
  some o

/-- Counts a line if a character ends one. -/
def countLine? (c : Char) (o : Offsets) : Option Offsets :=
  if c = '\n' then do
    let line ← addWord? bits o.line 1
    some { o with line := line }
  else some o

/-- Whether the next character is of a class, the sentinel included. -/
def sees? (p : Char → Bool) (o : Offsets) : Option Bool := do
  some (p (← peek? source 0 o))

/-- Whether a character is left and is of a class. -/
def seesBeforeEnd? (p : Char → Bool) (o : Offsets) : Option Bool := do
  some (p (← peek? source 0 o) && !atEnd source o)

/-- Takes characters of a class to which the sentinel does not belong. -/
def skipWhile? (p : Char → Bool) : Offsets → Option Offsets :=
  loop? (sees? source p) (skip? bits source) source.utf8ByteSize

/-- Takes a comment after its `#`. -/
def skipComment? : Offsets → Option Offsets :=
  loop? (seesBeforeEnd? source (· != '\n')) (skip? bits source) source.utf8ByteSize

/-- Takes a character of a string, and the one that a backslash takes along. -/
def skipEscaped? (o : Offsets) : Option Offsets := do
  let (c, o) ← advance? bits source o
  if c == '\\' && !atEnd source o then
    let (d, o) ← advance? bits source o
    countLine? bits d o
  else countLine? bits c o

/-- Takes a string after its opening quote, up to the closing one. -/
def skipString? : Offsets → Option Offsets :=
  loop? (seesBeforeEnd? source (· != '"')) (skipEscaped? bits source) source.utf8ByteSize

/-- Reads a string after its opening quote. -/
def readString? (o : Offsets) : Option (Kind × Offsets) := do
  let o ← skipString? bits source o
  if atEnd source o then some (.error, o)
  else
    let o ← skip? bits source o
    some (.string, o)

/-- Takes a point and the digits behind it, if two looks ahead show a point and a digit. -/
def skipFraction? (o : Offsets) : Option Offsets := do
  if (← peek? source 0 o) == '.' && (← peek? source 1 o).isDigit then
    let o ← skip? bits source o
    skipWhile? bits source Char.isDigit o
  else some o

/-- Reads a number after its first digit. -/
def readNumber? (o : Offsets) : Option (Kind × Offsets) := do
  let o ← skipWhile? bits source Char.isDigit o
  let o ← skipFraction? bits source o
  some (.number, o)

/-- Reads a word after its first character. -/
def readWord? (o : Offsets) : Option (Kind × Offsets) := do
  let o ← skipWhile? bits source Character.continuesWord o
  let word ← lexeme? source o
  some (.ofWord word, o)

/-- Reads what starts with a symbol, after that. -/
def readSymbol? (s : Symbol) (o : Offsets) : Option (Kind × Offsets) :=
  match s.withEquals? with
  | none => some (.symbol s, o)
  | some long => do
    if (← peek? source 0 o) == '=' then
      let o ← skip? bits source o
      some (.symbol long, o)
    else some (.symbol s, o)

/-- Reads the lexeme that starts with a given character, after that. -/
def readLexeme? (c : Char) (o : Offsets) : Option (Kind × Offsets) :=
  if c == '"' then readString? bits source o
  else if c.isDigit then readNumber? bits source o
  else if Character.startsWord c then readWord? bits source o
  else match Symbol.ofChar? c with
    | some s => readSymbol? bits source s o
    | none => some (.error, o)

/-- Reads one item, and the token that it makes, if it is a lexeme. -/
def scan? (o : Offsets) : Option (Option Token × Offsets) := do
  let line := o.line
  let (c, o) ← advance? bits source { o with start := o.next }
  if Character.isBlank c then some (none, o)
  else if c == '\n' then
    let o ← countLine? bits c o
    some (none, o)
  else if c == '#' then
    let o ← skipComment? bits source o
    some (none, o)
  else
    let (kind, o) ← readLexeme? bits source c o
    let lexeme ← lexeme? source o
    some (some ⟨kind, lexeme, line⟩, o)

/-- Reads one item and holds the token that it makes, if it makes one. -/
def item? (s : Offsets × Array Token) : Option (Offsets × Array Token) := do
  let (t, o) ← scan? bits source s.1
  some (o, t.elim s.2 s.2.push)

/-- Reads a number of items, or fewer if the script ends before. -/
def items? : ℕ → Offsets × Array Token → Option (Offsets × Array Token)
  | 0, s => some s
  | n + 1, s => if atEnd source s.1 then some s else do items? n (← item? bits source s)

/-- Scans to the end of the script and marks it. -/
def tokenizeAll? (s : Offsets × Array Token) : Option (Offsets × Array Token) := do
  let (o, tokens) ←
    loop? (fun s => some (!atEnd source s.1)) (item? bits source) source.utf8ByteSize s
  some (o, tokens.push (.eof o.line))

/-- Scans a script a number of times. -/
def scans? : ℕ → Option (Offsets × Array Token)
  | 0 => some (⟨0, 0, 1⟩, #[])
  | k + 1 => do tokenizeAll? bits source (← scans? k)

/-- Scans a script `k` times, and the first `n` items of it once more. -/
def reached? (k n : ℕ) : Option (Offsets × Array Token) := do
  items? bits source n (← scans? bits source k)

end Scanner

/-! ### Loops -/

section Loop

variable {σ : Type} {goesOn : σ → Option Bool} {body : σ → Option σ} {s s' : σ}

/-- A loop that is not to go on gives back its state, with any number of turns left. -/
theorem loop?_stop (hs : goesOn s = some false) (n : ℕ) : loop? goesOn body n s = some s := by
  cases n <;> rw [loop?, hs] <;> rfl

/-- A loop that is to go on does its body once and goes on with one turn less. -/
theorem loop?_turn (hs : goesOn s = some true) (hbody : body s = some s') (n : ℕ) :
    loop? goesOn body (n + 1) s = loop? goesOn body n s' := by
  rw [loop?, hs, hbody]
  rfl

end Loop

/-! ### Extents -/

section Extents

variable {ch : Char}

/-- The number of characters of a string between its quotes, or up to the end of a text that
ends before the string does. -/
def bodyLength (text : List Char) : ℕ :=
  (closingLength? text).elim text.length (· - 1)

/-- A backslash takes the character after it along into the body of a string. -/
theorem bodyLength_escape (d : Char) (r : List Char) :
    bodyLength ('\\' :: d :: r) = bodyLength r + 2 := by
  rw [bodyLength, bodyLength, closingLength?_escape]
  cases hr : closingLength? r with
  | none => rfl
  | some n =>
      have hpos := (closingLength?_bounds hr).1
      change n + 2 - 1 = n - 1 + 2
      omega

/-- Any character but a quote and a backslash adds one to the body of a string. -/
theorem bodyLength_plain (hq : ch ≠ '"') (hb : ch ≠ '\\') (r : List Char) :
    bodyLength (ch :: r) = bodyLength r + 1 := by
  rw [bodyLength, bodyLength, closingLength?_plain hq hb]
  cases hr : closingLength? r with
  | none => rfl
  | some n =>
      have hpos := (closingLength?_bounds hr).1
      change n + 1 - 1 = n - 1 + 1
      omega

/-- A look at the next character shows a digit exactly if a text begins with digits. -/
theorem isDigit_getD (r : List Char) :
    (r[0]?.getD sentinel).isDigit = decide (digitsLength r ≠ 0) := by
  cases r with
  | nil => rfl
  | cons d r => by_cases hd : d.isDigit <;> simp [digitsLength, hd]

/-- One more digit in front makes a number longer by one. -/
theorem numberLength_cons (hch : ch.isDigit = true) (r : List Char) :
    numberLength (ch :: r) = numberLength r + 1 := by
  have hdigits : digitsLength (ch :: r) = digitsLength r + 1 := by simp [digitsLength, hch]
  rw [numberLength, numberLength, hdigits, List.drop_succ_cons, Nat.add_right_comm]

end Extents

/-! ### Looking and taking -/

/-- The numbers of a cursor. -/
def Offsets.of (c : Cursor) : Offsets :=
  ⟨c.start, c.position, c.line⟩

/-- The lexeme starts where the cursor says. -/
@[simp] theorem Offsets.of_start (c : Cursor) : (Offsets.of c).start = c.start := rfl

/-- The next character is where the cursor stands. -/
@[simp] theorem Offsets.of_next (c : Cursor) : (Offsets.of c).next = c.position := rfl

/-- The line is the cursor's. -/
@[simp] theorem Offsets.of_line (c : Cursor) : (Offsets.of c).line = c.line := rfl

/-- The numbers of a cursor that has moved over a character and not counted the line yet. -/
def Offsets.uncounted (c : Cursor) : Offsets :=
  { Offsets.of c.advance with line := c.line }

open Cursor (StandsIn advanceBy)
open Session (drain scans reached)
open Log (Journal)

variable {bits : ℕ} {source : String} {before : List Char} {c : Cursor} {ch : Char}
  {r : List Char} {s : Session}

/-- A sum that is small enough does not overflow. -/
theorem addWord?_of_lt {a b : ℕ} (h : a + b < 2 ^ bits) : addWord? bits a b = some (a + b) :=
  if_pos h

/-- A look `n` characters ahead shows what the cursor has there, or the sentinel beyond the end. -/
theorem peek?_eq (h : StandsIn source before c) (n : ℕ) :
    peek? source n (.of c) = some (c.rest[n]?.getD sentinel) := by
  rw [peek?, Offsets.of_next, h.dropBytes?_eq]
  rfl

/-- The scanner is at the end exactly if the cursor has nothing left. -/
theorem atEnd_eq (h : StandsIn source before c) : atEnd source (.of c) = c.rest.isEmpty := by
  have hsize := h.position_add
  rw [atEnd, Offsets.of_next]
  cases hc : c.rest with
  | nil =>
      rw [hc, Text.byteLength_nil, Nat.add_zero] at hsize
      exact decide_eq_true hsize.ge
  | cons ch r =>
      have hpos := ch.utf8Size_pos
      rw [hc, Text.byteLength_cons] at hsize
      exact decide_eq_false (by omega)

/-- A line that is not counted yet does not matter for whether the end is reached. -/
theorem atEnd_uncounted (h : StandsIn source before c) :
    atEnd source (.uncounted c) = c.advance.rest.isEmpty :=
  atEnd_eq h.advance

/-- A class without the sentinel is seen exactly if the next character exists and is in it. -/
theorem sees?_eq {p : Char → Bool} (hsentinel : p sentinel = false)
    (h : StandsIn source before c) : sees? source p (.of c) = some (c.rest.head?.any p) := by
  rw [sees?, peek?_eq h]
  cases c.rest with
  | nil => simp [hsentinel]
  | cons ch r => simp

/-- With the check for the end, any class is seen exactly if the next character exists and is in it.
-/
theorem seesBeforeEnd?_eq (p : Char → Bool) (h : StandsIn source before c) :
    seesBeforeEnd? source p (.of c) = some (c.rest.head?.any p) := by
  rw [seesBeforeEnd?, peek?_eq h, atEnd_eq h]
  cases c.rest <;> simp

/-- A lexeme is cut out whole wherever a cursor stands. -/
theorem lexeme?_eq (h : StandsIn source before c) : lexeme? source (.of c) = some c.lexeme := by
  rw [lexeme?, Offsets.of_start, Offsets.of_next, if_pos h.sound.start_le, h.slice?_eq,
    Option.map_some, String.ofList_toList]

/-- At the end of the script the sentinel is taken and the scanner stays. -/
theorem advance?_of_nil (h : StandsIn source before c) (hc : c.rest = []) :
    advance? bits source (.of c) = some (sentinel, .of c) := by
  have hend := atEnd_eq h
  rw [hc] at hend
  rw [advance?, peek?_eq h, hc]
  simp [hend]

/-- The numbers of a session's cursor, and its tokens. -/
def held (s : Session) : Offsets × Array Token :=
  (.of s.cursor, s.tokens)

/-- A session is at its end exactly if its cursor has nothing left. -/
theorem atEnd_held (h : StandsIn source before s.cursor) :
    atEnd source (held s).1 = s.cursor.rest.isEmpty :=
  atEnd_eq h

section Room

-- A line may be counted for every byte of the script, and the first line counts already.
variable (hroom : source.utf8ByteSize + 1 < 2 ^ bits)
include hroom

/-- Taking a character moves the position as the cursor moves it, and not the line yet. -/
theorem advance?_of_cons (h : StandsIn source before c) (hc : c.rest = ch :: r) :
    advance? bits source (.of c) = some (ch, .uncounted c) := by
  have hend := atEnd_eq h
  have hsize := h.position_add
  have hposition : c.advance.position = c.position + ch.utf8Size := by
    rw [Cursor.position, Cursor.position, c.advance_start, c.advance_taken, hc]
    simp only [List.take_succ_cons, List.take_zero, List.reverse_singleton,
      Text.byteLength_append, Text.byteLength_cons, Text.byteLength_nil]
    omega
  rw [hc] at hend hsize
  rw [Text.byteLength_cons] at hsize
  have hfits : addWord? bits c.position ch.utf8Size = some c.advance.position :=
    hposition ▸ addWord?_of_lt (by omega)
  rw [advance?, peek?_eq h, hc, hend]
  simp [hfits, Offsets.of, Offsets.uncounted]

/-- Counting the line of a character that was taken brings the scanner to the cursor again. -/
theorem countLine?_advance (h : StandsIn source before c) (hc : c.rest = ch :: r) :
    countLine? bits ch (.uncounted c) = some (.of c.advance) := by
  have hline := c.advance_line
  have hle := h.advance.line_le
  rw [hc] at hline
  by_cases hch : ch = '\n'
  · subst hch
    have hnext : c.advance.line = c.line + 1 := by simpa using hline
    have hfits : addWord? bits c.line 1 = some (c.line + 1) := addWord?_of_lt (by omega)
    rw [countLine?, if_pos rfl]
    simp [hfits, ← hnext, Offsets.of, Offsets.uncounted]
  · have hsame : c.advance.line = c.line := by simpa [hch] using hline
    rw [countLine?, if_neg hch, Offsets.uncounted, ← hsame]
    rfl

/-- A character that does not end a line is taken as the cursor takes it. -/
theorem advance?_of_ne (h : StandsIn source before c) (hc : c.rest = ch :: r) (hch : ch ≠ '\n') :
    advance? bits source (.of c) = some (ch, .of c.advance) := by
  have hcount := countLine?_advance hroom h hc
  rw [countLine?, if_neg hch, Option.some.injEq] at hcount
  rw [advance?_of_cons hroom h hc, hcount]

/-- To take a character that ends no line is to move the cursor over it. -/
theorem skip?_of_ne (h : StandsIn source before c) (hc : c.rest = ch :: r) (hch : ch ≠ '\n') :
    skip? bits source (.of c) = some (.of c.advance) := by
  rw [skip?, advance?_of_ne hroom h hc hch]
  rfl

/-! ### Digits, words and comments -/

/-- A loop that takes characters of a class takes all of them that the rest begins with, if it
goes on exactly before such a character. -/
theorem loop?_skip {p : Char → Bool} {goesOn : Offsets → Option Bool} (hline : p '\n' = false)
    (hgoes : ∀ c, StandsIn source before c → goesOn (.of c) = some (c.rest.head?.any p))
    (n : ℕ) (h : StandsIn source before c) (hn : c.rest.length ≤ n) :
    loop? goesOn (skip? bits source) n (.of c) =
      some (.of (advanceBy (c.rest.takeWhile p).length c)) := by
  have hgoes' := hgoes c h
  induction hc : c.rest generalizing c n with
  | nil =>
      rw [hc] at hgoes'
      exact loop?_stop hgoes' n
  | cons ch r ih =>
      have hrest : c.advance.rest = r := Cursor.advance_rest_of_cons hc
      rw [hc] at hgoes' hn
      obtain ⟨n, rfl⟩ := Nat.exists_eq_add_one_of_ne_zero (Nat.ne_zero_of_lt hn)
      by_cases hp : p ch
      · have hch : ch ≠ '\n' := by
          rintro rfl
          exact Bool.false_ne_true (hline.symm.trans hp)
        rw [loop?_turn (by simpa [hp] using hgoes') (skip?_of_ne hroom h hc hch),
          ih n h.advance (hrest ▸ Nat.le_of_succ_le_succ hn) (hgoes _ h.advance) hrest,
          List.takeWhile_cons_of_pos hp]
        rfl
      · rw [List.takeWhile_cons_of_neg hp]
        exact loop?_stop (by simpa [hp] using hgoes') _

/-- Characters of a class with neither a line's end nor the sentinel are taken as a whole. -/
theorem skipWhile?_eq {p : Char → Bool} (hline : p '\n' = false) (hsentinel : p sentinel = false)
    (h : StandsIn source before c) :
    skipWhile? bits source p (.of c) =
      some (.of (advanceBy (c.rest.takeWhile p).length c)) :=
  loop?_skip hroom hline (fun _ => sees?_eq hsentinel) _ h h.length_rest_le

/-- After its `#` a comment is taken as a whole. -/
theorem skipComment?_eq (h : StandsIn source before c) :
    skipComment? bits source (.of c) = some (.of (advanceBy (commentLength c.rest) c)) :=
  loop?_skip hroom rfl (fun _ => seesBeforeEnd?_eq _) _ h h.length_rest_le

/-! ### Strings -/

/-- A backslash takes the character after it along. -/
theorem skipEscaped?_escape {d : Char} (h : StandsIn source before c)
    (hc : c.rest = '\\' :: d :: r) :
    skipEscaped? bits source (.of c) = some (.of c.advance.advance) := by
  have hc' : c.advance.rest = d :: r := Cursor.advance_rest_of_cons hc
  have hend := atEnd_eq h.advance
  rw [hc'] at hend
  rw [skipEscaped?, advance?_of_ne hroom h hc (by decide)]
  simp [hend, advance?_of_cons hroom h.advance hc', countLine?_advance hroom h.advance hc']

/-- Every other character is taken alone, and so is a backslash that nothing follows. -/
theorem skipEscaped?_plain (h : StandsIn source before c) (hc : c.rest = ch :: r)
    (hch : ch ≠ '\\' ∨ r = []) : skipEscaped? bits source (.of c) = some (.of c.advance) := by
  have hend := atEnd_uncounted h
  rw [Cursor.advance_rest_of_cons hc] at hend
  rw [skipEscaped?, advance?_of_cons hroom h hc]
  rcases hch with hch | rfl
  · simp [hch, countLine?_advance hroom h hc]
  · simp [hend, countLine?_advance hroom h hc]

/-- The loop over a string takes its body. The induction follows the extent of the string, in
which a backslash takes two characters. -/
theorem loop?_string (n : ℕ) (h : StandsIn source before c) (hn : c.rest.length ≤ n) :
    loop? (seesBeforeEnd? source (· != '"')) (skipEscaped? bits source) n (.of c) =
      some (.of (advanceBy (bodyLength c.rest) c)) := by
  have hgoes := seesBeforeEnd?_eq (· != '"') h
  generalize hc : c.rest = text at hgoes hn ⊢
  fun_induction closingLength? text generalizing c n with
  | case1 => exact loop?_stop hgoes n
  | case2 r => exact loop?_stop hgoes n
  | case3 =>
      obtain ⟨n, rfl⟩ := Nat.exists_eq_add_one_of_ne_zero (Nat.ne_zero_of_lt hn)
      have hgoes' := seesBeforeEnd?_eq (· != '"') h.advance
      rw [Cursor.advance_rest_of_cons hc] at hgoes'
      rw [loop?_turn hgoes (skipEscaped?_plain hroom h hc (.inr rfl)), loop?_stop hgoes']
      rfl
  | case4 d r ih =>
      obtain ⟨n, rfl⟩ := Nat.exists_eq_add_one_of_ne_zero (Nat.ne_zero_of_lt hn)
      have hrest : c.advance.advance.rest = r :=
        Cursor.advance_rest_of_cons (Cursor.advance_rest_of_cons hc)
      have hgoes' := seesBeforeEnd?_eq (· != '"') h.advance.advance
      rw [hrest] at hgoes'
      rw [loop?_turn hgoes (skipEscaped?_escape hroom h hc), bodyLength_escape]
      exact ih n h.advance.advance hrest hgoes' (Nat.le_of_succ_le (Nat.le_of_succ_le_succ hn))
  | case5 ch r hq hb hb' ih =>
      obtain ⟨n, rfl⟩ := Nat.exists_eq_add_one_of_ne_zero (Nat.ne_zero_of_lt hn)
      have hrest : c.advance.rest = r := Cursor.advance_rest_of_cons hc
      have hgoes' := seesBeforeEnd?_eq (· != '"') h.advance
      rw [hrest] at hgoes'
      have hbackslash : ch ≠ '\\' := by
        rintro rfl
        cases r with
        | nil => exact hb rfl rfl
        | cons d r => exact hb' d r rfl rfl
      have hgoes : _ = some true := hgoes.trans (congrArg some (bne_iff_ne.mpr hq))
      rw [loop?_turn hgoes (skipEscaped?_plain hroom h hc (.inl hbackslash)),
        bodyLength_plain hq hbackslash]
      exact ih n h.advance hrest hgoes' (Nat.le_of_succ_le_succ hn)

/-- After its opening quote a string is taken up to the closing one, or to the end. -/
theorem skipString?_eq (h : StandsIn source before c) :
    skipString? bits source (.of c) = some (.of (advanceBy (bodyLength c.rest) c)) :=
  loop?_string hroom _ h h.length_rest_le

/-! ### Lexemes -/

/-- A string that closes is read to its closing quote, this included. -/
theorem readString?_of_some {n : ℕ} (h : StandsIn source before c)
    (hn : closingLength? c.rest = some n) :
    readString? bits source (.of c) = some (.string, .of (advanceBy n c)) := by
  have hlength : bodyLength c.rest = n - 1 := by rw [bodyLength, hn]; rfl
  obtain ⟨body, -, r, hc, rfl⟩ := exists_body_of_closingLength? hn
  have hbody := h.advanceBy body.length
  have hrest : (advanceBy body.length c).rest = '"' :: r := by
    rw [Cursor.advanceBy_rest, hc, List.drop_left]
  have hend := atEnd_eq hbody
  rw [hrest] at hend
  rw [readString?, skipString?_eq hroom h, hlength, Nat.add_sub_cancel, Cursor.advanceBy_add]
  simp [hend, skip?_of_ne hroom hbody hrest (by decide), advanceBy]

/-- A string that does not close is read to the end of the script, as an error. -/
theorem readString?_of_none (h : StandsIn source before c) (hn : closingLength? c.rest = none) :
    readString? bits source (.of c) = some (.error, .of (advanceBy c.rest.length c)) := by
  have hlength : bodyLength c.rest = c.rest.length := by rw [bodyLength, hn]; rfl
  have hend := atEnd_eq (h.advanceBy c.rest.length)
  rw [Cursor.advanceBy_rest, List.drop_length] at hend
  rw [readString?, skipString?_eq hroom h, hlength]
  simp [hend]

/-- The digits ahead are taken as a whole. -/
theorem skipDigits?_eq (h : StandsIn source before c) :
    skipWhile? bits source Char.isDigit (.of c) =
      some (.of (advanceBy (digitsLength c.rest) c)) :=
  skipWhile?_eq hroom rfl rfl h

/-- A point with digits behind it is taken with them, and otherwise nothing is. -/
theorem skipFraction?_eq (h : StandsIn source before c) :
    skipFraction? bits source (.of c) = some (.of (advanceBy (fractionLength c.rest) c)) := by
  rw [skipFraction?, peek?_eq h, peek?_eq h]
  match hc : c.rest with
  | [] => simp [sentinel, fractionLength, advanceBy]
  | ch :: r =>
      by_cases hch : ch = '.'
      · subst hch
        have hrest : c.advance.rest = r := Cursor.advance_rest_of_cons hc
        have hdigits := skipDigits?_eq hroom h.advance
        rw [hrest] at hdigits
        by_cases hzero : digitsLength r = 0
        · simp [fractionLength, hzero, isDigit_getD, advanceBy]
        · simp [fractionLength, hzero, isDigit_getD, skip?_of_ne hroom h hc, hdigits, advanceBy]
      · simp [hch, fractionLength, advanceBy]

/-- After its first digit a number is read with its fraction. -/
theorem readNumber?_eq (h : StandsIn source before c) :
    readNumber? bits source (.of c) = some (.number, .of (advanceBy (numberLength c.rest) c)) := by
  have hfraction := skipFraction?_eq hroom (h.advanceBy (digitsLength c.rest))
  rw [Cursor.advanceBy_rest, ← Cursor.advanceBy_add] at hfraction
  rw [readNumber?, skipDigits?_eq hroom h]
  simp [hfraction, numberLength]

/-- After its first character a word is read as a whole, and its kind is decided by the text cut
out. -/
theorem readWord?_eq (h : StandsIn source before c) :
    readWord? bits source (.of c) =
      some (.ofWord (advanceBy (c.rest.takeWhile Character.continuesWord).length c).lexeme,
        .of (advanceBy (c.rest.takeWhile Character.continuesWord).length c)) := by
  rw [readWord?, skipWhile?_eq hroom rfl rfl h]
  simp [lexeme?_eq (h.advanceBy _)]

/-- What starts with a symbol is read as the item that a text with this symbol begins with. -/
theorem exists_readSymbol? (s : Symbol) (h : StandsIn source before c) :
    ∃ kind n, Item.ofSymbol s c.rest = .lexeme kind (n + 1) ∧
      readSymbol? bits source s (.of c) = some (kind, .of (advanceBy n c)) := by
  have hpeek := peek?_eq h 0
  unfold readSymbol? Item.ofSymbol
  cases hs : s.withEquals? with
  | none => exact ⟨.symbol s, 0, rfl, rfl⟩
  | some long =>
      match hc : c.rest with
      | [] => exact ⟨.symbol s, 0, rfl, by simp [hpeek, hc, sentinel, advanceBy]⟩
      | ch :: r =>
          by_cases hch : ch = '='
          · subst hch
            refine ⟨.symbol long, 1, rfl, ?_⟩
            simp [hpeek, hc, skip?_of_ne hroom h hc, advanceBy]
          · exact ⟨.symbol s, 0, by simp [hch], by simp [hpeek, hc, hch, advanceBy]⟩

/-- The lexeme that starts with a character is read as the item that a text with this first
character begins with. -/
theorem exists_readLexeme? (h : StandsIn source before c) (htaken : c.taken = [ch])
    (hspace : (Character.isBlank ch || ch == '\n') = false) (hcomment : (ch == '#') = false) :
    ∃ kind n, Item.first ch c.rest = .lexeme kind (n + 1) ∧
      readLexeme? bits source ch (.of c) = some (kind, .of (advanceBy n c)) := by
  unfold readLexeme? Item.first
  simp only [hspace, hcomment, Bool.false_eq_true, if_false]
  split_ifs with hquote hdigit hword
  · unfold Item.ofQuote
    cases hn : closingLength? c.rest with
    | some n => exact ⟨_, n, rfl, readString?_of_some hroom h hn⟩
    | none => exact ⟨_, c.rest.length, rfl, readString?_of_none hroom h hn⟩
  · refine ⟨_, numberLength c.rest, ?_, readNumber?_eq hroom h⟩
    rw [numberLength_cons hdigit]
  · refine ⟨_, _, ?_, readWord?_eq hroom h⟩
    have htake := List.prefix_iff_eq_take.mp
      (List.takeWhile_prefix (l := c.rest) Character.continuesWord)
    rw [Item.ofWordStart, Cursor.lexeme, Cursor.advanceBy_taken, htaken, ← htake]
    simp
  · cases Symbol.ofChar? ch with
    | some s => exact exists_readSymbol? hroom s h
    | none => exact ⟨_, 0, rfl, rfl⟩

/-! ### Items -/

/-- Reading an item by offsets is reading it by a cursor: the same token, if it makes one, and
the numbers of the cursor behind it. -/
theorem scan?_eq (h : StandsIn source before c) (hc : c.rest ≠ []) :
    scan? bits source (.of c) = some (c.scan.1, .of c.scan.2) := by
  obtain ⟨ch, r, hc⟩ := List.exists_cons_of_ne_nil hc
  have hmark := h.mark
  have hrest : c.mark.rest = ch :: r := hc
  have htaken : c.mark.advance.taken = [ch] := by simp [Cursor.advance_taken, hc]
  have hrest' : c.mark.advance.rest = r := Cursor.advance_rest_of_cons hrest
  have hstart : { Offsets.of c with start := (Offsets.of c).next } = Offsets.of c.mark := rfl
  rw [scan?, hstart, Cursor.scan, hc]
  -- The end of a line is apart: it is the one character that the cursor counts as it moves over
  -- it and the byte scanner only afterwards.
  by_cases hline : ch = '\n'
  · subst hline
    simp [advance?_of_cons hroom hmark hrest, countLine?_advance hroom hmark hrest, Item.first,
      Character.isBlank, advanceBy]
  rw [advance?_of_ne hroom hmark hrest hline]
  by_cases hblank : Character.isBlank ch
  · simp [hblank, Item.first, advanceBy]
  by_cases hcomment : ch = '#'
  · subst hcomment
    have hskip := skipComment?_eq hroom hmark.advance
    rw [hrest'] at hskip
    simp [hskip, Item.first, Character.isBlank, advanceBy]
  · obtain ⟨kind, n, hfirst, hread⟩ := exists_readLexeme? hroom hmark.advance htaken
      (by simpa [hline] using hblank) (by simpa using hcomment)
    rw [hrest'] at hfirst
    simp [hline, hblank, hcomment, hfirst, hread, lexeme?_eq (hmark.advance.advanceBy n),
      advanceBy]

/-! ### Sessions -/

/-- One item read by offsets is the item that a session reads. -/
theorem item?_eq (log : Journal) (h : StandsIn source before s.cursor)
    (hrest : s.cursor.rest ≠ []) : item? bits source (held s) = some (held (s.step log).1) := by
  rw [item?, held, scan?_eq hroom h hrest, Session.step]
  cases s.cursor.scan with
  | mk made cursor => cases made <;> simp [held]

/-- Any number of items read by offsets are the items that a session reads. -/
theorem items?_eq (n : ℕ) (log : Journal) (h : ∃ before, StandsIn source before s.cursor) :
    items? bits source n (held s) = some (held (drain n s log).1) := by
  induction n generalizing s log with
  | zero => rfl
  | succ n ih =>
      obtain ⟨before, h⟩ := h
      have hend := atEnd_held h
      by_cases hrest : s.cursor.rest = []
      · rw [items?, if_pos (by rw [hend, hrest]; rfl), Session.drain_of_rest_nil hrest]
      · rw [items?, if_neg (by simp [hend, hrest]), item?_eq hroom log h hrest,
          Session.drain_succ hrest]
        exact ih _ (Session.exists_standsIn_step log ⟨before, h⟩)

/-- The loop of a scan comes to an end, as every item leaves a shorter rest. The session has as
many steps as characters are left, and the loop may have more. -/
theorem loop?_items (m n : ℕ) (log : Journal) (hm : s.cursor.rest.length ≤ m)
    (hn : s.cursor.rest.length ≤ n) (h : ∃ before, StandsIn source before s.cursor) :
    loop? (fun s => some (!atEnd source s.1)) (item? bits source) n (held s) =
      some (held (drain m s log).1) := by
  induction n generalizing s m log with
  | zero =>
      obtain ⟨before, h⟩ := h
      have hrest : s.cursor.rest = [] := List.length_eq_zero_iff.mp (by omega)
      rw [Session.drain_of_rest_nil hrest]
      exact loop?_stop (by rw [atEnd_held h, hrest]; rfl) 0
  | succ n ih =>
      obtain ⟨before, h⟩ := h
      by_cases hrest : s.cursor.rest = []
      · rw [Session.drain_of_rest_nil hrest]
        exact loop?_stop (by rw [atEnd_held h, hrest]; rfl) _
      · have hlt := Cursor.scan_rest_length_lt hrest
        rw [← Session.step_cursor s log] at hlt
        obtain ⟨m, rfl⟩ : ∃ k, m = k + 1 := ⟨m - 1, by omega⟩
        rw [loop?_turn (by rw [atEnd_held h]; simp [hrest]) (item?_eq hroom log h hrest),
          Session.drain_succ hrest]
        exact ih m _ (by omega) (by omega) (Session.exists_standsIn_step log ⟨before, h⟩)

/-- A whole scan by offsets is the scan of a session. -/
theorem tokenizeAll?_eq (h : ∃ before, StandsIn source before s.cursor) (log : Journal) :
    tokenizeAll? bits source (held s) = some (held (s.tokenizeAll log).1) := by
  obtain ⟨before, hs⟩ := h
  rw [tokenizeAll?, loop?_items hroom _ _ _ le_rfl hs.length_rest_le ⟨before, hs⟩]
  rfl

/-- Any number of scans by bytes does what as many scans by characters do. -/
theorem scans?_eq (k : ℕ) : scans? bits source k = some (held (scans source k)) := by
  induction k with
  | zero => rfl
  | succ k ih =>
      rw [scans?, ih, Session.scans_succ]
      exact tokenizeAll?_eq hroom (Session.exists_standsIn_scans source k) .silent

/-- After any number of scans and of items the scanner stands where the session does. -/
theorem reached?_eq (k n : ℕ) :
    reached? bits source k n = some (held (reached source k n)) := by
  rw [reached?, scans?_eq hroom]
  exact items?_eq hroom n .silent (Session.exists_standsIn_scans source k)

/-! ### No operation fails -/

/-- `Works bits source c`: no operation of a byte scanner fails where the cursor `c` stands, not
even at the end of the script or with a look beyond it. -/
structure Works (bits : ℕ) (source : String) (c : Cursor) : Prop where
  sound : c.Sound source
  peek?_eq : ∀ n, peek? source n (.of c) = some (c.rest[n]?.getD sentinel)
  advance?_eq : advance? bits source (.of c) = some (c.rest[0]?.getD sentinel, .uncounted c)
  /-- A line is counted without overflow if the character just taken ends one. -/
  countLine?_eq : ∀ ch ∈ c.rest[0]?, countLine? bits ch (.uncounted c) = some (.of c.advance)
  lexeme?_eq : lexeme? source (.of c) = some c.lexeme

/-- No operation fails where a cursor stands in the script. -/
theorem works_of_standsIn (h : StandsIn source before c) : Works bits source c where
  sound := h.sound
  peek?_eq := peek?_eq h
  advance?_eq := by
    cases hc : c.rest with
    | nil =>
        have hstays : c.advance = c := by simp [Cursor.advance, hc]
        rw [advance?_of_nil h hc, Offsets.uncounted, hstays]
        rfl
    | cons ch r => exact advance?_of_cons hroom h hc
  countLine?_eq := by
    intro ch hch
    cases hc : c.rest with
    | nil => simp [hc] at hch
    | cons d r =>
        obtain rfl : d = ch := by simpa [hc] using hch
        exact countLine?_advance hroom h hc
  lexeme?_eq := lexeme?_eq h

end Room

/-- **No operation fails at any point of any scan.** Let the size of a script fit into `bits`
bits and words have one bit more. After any number of whole scans and any number of items of one
more, a byte scanner has come to where the session stands and holds its tokens. There, and
before every character of the item that begins there, its offsets are sound and no operation
fails. -/
theorem reached_works (bits : ℕ) (source : String) (hsize : source.utf8ByteSize < 2 ^ bits)
    (k n : ℕ) :
    reached? (bits + 1) source k n = some (held (reached source k n)) ∧
      Works (bits + 1) source (reached source k n).cursor ∧
      ∀ i, Works (bits + 1) source (advanceBy i (reached source k n).cursor.mark) := by
  have hroom : source.utf8ByteSize + 1 < 2 ^ (bits + 1) := by
    rw [Nat.pow_succ]
    omega
  obtain ⟨before, h⟩ := Session.exists_standsIn_reached source k n
  exact ⟨reached?_eq hroom k n, works_of_standsIn hroom h,
    fun i => works_of_standsIn hroom (h.mark.advanceBy i)⟩

/-- A second scan of a script with characters of one, two and four bytes, the sentinel among
them, that ends where two characters are looked ahead for. -/
theorem reached_works_twice :
    "é\x00\"𝄞\n\"3.".utf8ByteSize < 2 ^ 63 ∧
      reached? 64 "é\x00\"𝄞\n\"3." 2 0 = some (⟨11, 12, 2⟩,
        #[⟨.error, "é", 1⟩, ⟨.error, "\x00", 1⟩, ⟨.string, "\"𝄞\n\"", 1⟩, ⟨.number, "3", 2⟩,
          ⟨.symbol .dot, ".", 2⟩, .eof 2, .eof 2]) := by
  have hsize : "é\x00\"𝄞\n\"3.".utf8ByteSize < 2 ^ 63 := by decide
  obtain ⟨hreached, -, -⟩ := reached_works 63 "é\x00\"𝄞\n\"3." hsize 2 0
  exact ⟨hsize, hreached.trans (by decide)⟩

end ByteScan

end ScriptLexer
