import Mathlib.Computability.Language
import Mathlib.Data.List.TakeWhile
import ScriptLexer.Item

/-!
# The Grammar of Lexemes

The lexemes of the scripting language as formal languages over characters, built from classes
of characters with union, concatenation and iteration alone. Nothing here scans: `number` is
`[0-9]+(\.[0-9]+)?`, `word` is `[A-Za-z_@][A-Za-z0-9_@]*`, `closedString` is a quote, any
number of plain characters and escape pairs, and a quote, and `spelled` are the spellings of
the punctuation marks and operators.

The extents by which an item is cut (`digitsLength`, `numberLength`, `closingLength?`) are
tied to these languages here, so that no later module opens them.

## Main results

* `closingLength?_eq_some_iff` — the extent of a string is that of a closed string.
* `closedString_prefix_unique` — a text begins with at most one closed string.
* `length_le_numberLength` — no number at the head of a text is longer than its extent.
-/

open scoped Computability

namespace ScriptLexer.Grammar

/-- The texts of a single character of a class. -/
def one (p : Char → Prop) : Language Char :=
  {w | ∃ c, p c ∧ w = [c]}

/-- An ASCII digit, `[0-9]`. -/
def IsDigit (c : Char) : Prop :=
  '0' ≤ c ∧ c ≤ '9'

/-- A character that a word starts with, `[A-Za-z_@]`. -/
def StartsWord (c : Char) : Prop :=
  'A' ≤ c ∧ c ≤ 'Z' ∨ 'a' ≤ c ∧ c ≤ 'z' ∨ c = '_' ∨ c = '@'

/-- Digits, at least one: `[0-9]+`. -/
def digits : Language Char :=
  one IsDigit * (one IsDigit)∗

/-- Digits with or without a fraction: `[0-9]+(\.[0-9]+)?`. -/
def number : Language Char :=
  digits * (1 + one (· = '.') * digits)

/-- A word, reserved or not: `[A-Za-z_@][A-Za-z0-9_@]*`. -/
def word : Language Char :=
  one StartsWord * (one fun c => StartsWord c ∨ IsDigit c)∗

/-- What stands between the quotes of a string: plain characters, and backslashes each of
which takes the character after it along, whatever that is. -/
def stringBody : Language Char :=
  (one (fun c => c ≠ '"' ∧ c ≠ '\\') + one (· = '\\') * one fun _ => True)∗

/-- A string that is closed: a quote, a body and a quote. -/
def closedString : Language Char :=
  one (· = '"') * stringBody * one (· = '"')

/-- The spellings of the punctuation marks and operators. -/
def spelled : Language Char :=
  {w | ∃ s : Symbol, s.spelling.toList = w}

/-- The languages that a lexeme can belong to. -/
def lexical : Language Char :=
  spelled + number + word + closedString

/-! ### Membership -/

variable {w r : List Char} {c : Char}

/-- The class of digits is the one that the scanner tests for. -/
@[simp] theorem isDigit_iff : IsDigit c ↔ c.isDigit = true := by
  simp [IsDigit, Char.isDigit, Char.le_def]

/-- The class of characters that a word starts with is the one that the scanner tests for. -/
@[simp] theorem startsWord_iff : StartsWord c ↔ Character.startsWord c = true := by
  have hupper : c.isUpper = decide ('A' ≤ c ∧ c ≤ 'Z') := rfl
  have hlower : c.isLower = (decide ('a' ≤ c) && decide (c ≤ 'z')) := rfl
  have halpha : c.isAlpha = (c.isUpper || c.isLower) := rfl
  simp [StartsWord, Character.startsWord, halpha, hupper, hlower, or_assoc]

/-- A text begins with a character of a class and goes on in a language. -/
theorem cons_mem_one_mul {p : Char → Prop} {L : Language Char} :
    w ∈ one p * L ↔ ∃ c v, w = c :: v ∧ p c ∧ v ∈ L := by
  rw [Language.mem_mul]
  constructor
  · rintro ⟨_, ⟨c, hc, rfl⟩, v, hv, rfl⟩
    exact ⟨c, v, rfl, hc, hv⟩
  · rintro ⟨c, v, rfl, hc, hv⟩
    exact ⟨[c], ⟨c, hc, rfl⟩, v, hv, rfl⟩

/-- One more text of a language may stand in front of a row of them. -/
theorem append_mem_kstar {L : Language Char} {v : List Char} (hw : w ∈ L) (hv : v ∈ L∗) :
    w ++ v ∈ L∗ := by
  obtain ⟨parts, rfl, hparts⟩ := Language.mem_kstar.mp hv
  exact ⟨w :: parts, rfl, List.forall_mem_cons.mpr ⟨hw, hparts⟩⟩

/-- The iteration of a class of characters holds the texts of such characters. -/
theorem mem_kstar_one {p : Char → Prop} : w ∈ (one p)∗ ↔ ∀ c ∈ w, p c := by
  constructor
  · rintro ⟨parts, rfl, hparts⟩ c hc
    obtain ⟨part, hpart, hmem⟩ := List.mem_flatten.mp hc
    obtain ⟨d, hd, rfl⟩ := hparts part hpart
    rw [List.mem_singleton.mp hmem]
    exact hd
  · intro h
    induction w with
    | nil => exact Language.nil_mem_kstar _
    | cons c v ih =>
        rw [List.forall_mem_cons] at h
        exact append_mem_kstar (w := [c]) ⟨c, h.1, rfl⟩ (ih h.2)

/-- Digits are a text that is not empty and has nothing but digits in it. -/
theorem mem_digits : w ∈ digits ↔ w ≠ [] ∧ ∀ c ∈ w, c.isDigit = true := by
  rw [digits, cons_mem_one_mul]
  constructor
  · rintro ⟨c, v, rfl, hc, hv⟩
    rw [mem_kstar_one] at hv
    simp only [isDigit_iff] at hc hv
    exact ⟨List.cons_ne_nil c v, List.forall_mem_cons.mpr ⟨hc, hv⟩⟩
  · rintro ⟨hne, hall⟩
    obtain ⟨c, v, rfl⟩ := List.exists_cons_of_ne_nil hne
    rw [List.forall_mem_cons] at hall
    refine ⟨c, v, rfl, isDigit_iff.mpr hall.1, mem_kstar_one.mpr fun d hd => ?_⟩
    exact isDigit_iff.mpr (hall.2 d hd)

/-- A number is its whole part, or its whole part, a point and its fraction. -/
theorem mem_number :
    w ∈ number ↔ w ∈ digits ∨ ∃ whole ∈ digits, ∃ fraction ∈ digits,
      w = whole ++ '.' :: fraction := by
  rw [number, Language.mem_mul]
  constructor
  · rintro ⟨whole, hwhole, tail, rfl | htail, rfl⟩
    · rw [List.append_nil]
      exact Or.inl hwhole
    · obtain ⟨_, fraction, rfl, rfl, hfraction⟩ := cons_mem_one_mul.mp htail
      exact Or.inr ⟨whole, hwhole, fraction, hfraction, rfl⟩
  · rintro (hw | ⟨whole, hwhole, fraction, hfraction, rfl⟩)
    · exact ⟨w, hw, [], Or.inl rfl, List.append_nil w⟩
    · exact ⟨whole, hwhole, '.' :: fraction,
        Or.inr (cons_mem_one_mul.mpr ⟨'.', fraction, rfl, rfl, hfraction⟩), rfl⟩

/-- A number starts with a digit. -/
theorem exists_digit_of_mem_number (hw : w ∈ number) :
    ∃ c v, w = c :: v ∧ c.isDigit = true := by
  obtain ⟨whole, hwhole, tail, rfl⟩ : ∃ whole ∈ digits, ∃ tail, w = whole ++ tail := by
    rcases mem_number.mp hw with hdigits | ⟨whole, hwhole, fraction, -, rfl⟩
    · exact ⟨w, hdigits, [], (List.append_nil w).symm⟩
    · exact ⟨whole, hwhole, _, rfl⟩
  obtain ⟨hne, hall⟩ := mem_digits.mp hwhole
  obtain ⟨d, v, rfl⟩ := List.exists_cons_of_ne_nil hne
  exact ⟨d, v ++ tail, rfl, hall d List.mem_cons_self⟩

/-- A word is a character that starts one, and any number that continue it. -/
theorem mem_word :
    w ∈ word ↔ ∃ c v, w = c :: v ∧ Character.startsWord c = true ∧
      ∀ d ∈ v, Character.continuesWord d = true := by
  simp only [word, cons_mem_one_mul, mem_kstar_one, startsWord_iff, isDigit_iff,
    Character.continuesWord, Bool.or_eq_true]

/-- A closed string is a body between two quotes. -/
theorem mem_closedString :
    w ∈ closedString ↔ ∃ body ∈ stringBody, w = '"' :: (body ++ ['"']) := by
  rw [closedString, mul_assoc, cons_mem_one_mul]
  constructor
  · rintro ⟨_, _, rfl, rfl, hv⟩
    obtain ⟨body, hbody, _, ⟨_, rfl, rfl⟩, rfl⟩ := Language.mem_mul.mp hv
    exact ⟨body, hbody, rfl⟩
  · rintro ⟨body, hbody, rfl⟩
    exact ⟨'"', _, rfl, rfl, Language.append_mem_mul hbody ⟨'"', rfl, rfl⟩⟩

/-! ### Runs of a class -/

/-- A text that does not begin with a character of the class `p`. -/
def Breaks (p : Char → Bool) (r : List Char) : Prop :=
  ∀ c ∈ r.head?, p c = false

variable {p : Char → Bool} {v text : List Char}

/-- The empty text breaks off any class. -/
@[simp] theorem breaks_nil : Breaks p [] := by
  simp [Breaks]

/-- A text breaks off a class if its first character is not in it. -/
@[simp] theorem breaks_cons : Breaks p (c :: r) ↔ p c = false := by
  simp [Breaks]

/-- A run of a class ends where the class breaks. -/
theorem takeWhile_append_of_breaks (hw : ∀ c ∈ w, p c = true) (hr : Breaks p r) :
    (w ++ r).takeWhile p = w := by
  rw [List.takeWhile_append_of_pos hw]
  cases r with
  | nil => simp
  | cons c r => rw [List.takeWhile_cons_of_neg (by simpa using hr), List.append_nil]

/-- Every text is its longest run of a class, and a rest where the class breaks. -/
theorem exists_run (p : Char → Bool) (text : List Char) :
    ∃ w r, text = w ++ r ∧ text.takeWhile p = w ∧ (∀ c ∈ w, p c = true) ∧ Breaks p r := by
  refine ⟨text.takeWhile p, text.dropWhile p, List.takeWhile_append_dropWhile.symm, rfl,
    fun c hc => List.mem_takeWhile_imp hc, fun c hc => ?_⟩
  have hhead := List.head?_dropWhile_not p text
  rw [Option.mem_def.mp hc] at hhead
  simpa using hhead

/-- A run of a class at the head of a text is no longer than the longest one. -/
theorem length_le_takeWhile (hv : ∀ c ∈ v, p c = true) (h : v <+: text) :
    v.length ≤ (text.takeWhile p).length := by
  obtain ⟨r, rfl⟩ := h
  rw [List.takeWhile_append_of_pos hv, List.length_append]
  omega

/-! ### Numbers -/

/-- A text that begins with a point and a digit. -/
def StartsFraction (r : List Char) : Prop :=
  ∃ d v, r = '.' :: d :: v ∧ d.isDigit = true

/-- Digits are counted up to where the text breaks them off. -/
theorem digitsLength_append (hw : ∀ c ∈ w, c.isDigit = true) (hr : Breaks Char.isDigit r) :
    digitsLength (w ++ r) = w.length := by
  rw [digitsLength, takeWhile_append_of_breaks hw hr]

/-- Where no fraction starts, none is counted. -/
theorem fractionLength_eq_zero (h : ¬ StartsFraction r) : fractionLength r = 0 := by
  unfold fractionLength
  split
  case h_1 v =>
    rw [if_pos]
    cases v with
    | nil => rfl
    | cons d v =>
        have hd : ¬ d.isDigit = true := fun hd => h ⟨d, v, rfl, hd⟩
        rw [digitsLength, List.takeWhile_cons_of_neg hd, List.length_nil]
  case h_2 => rfl

/-- A point and digits are counted up to where the text breaks the digits off. -/
theorem fractionLength_append (hv : v ∈ digits) (hr : Breaks Char.isDigit r) :
    fractionLength ('.' :: (v ++ r)) = v.length + 1 := by
  obtain ⟨hne, hall⟩ := mem_digits.mp hv
  have hlen := digitsLength_append hall hr
  have hpos := List.length_pos_iff.mpr hne
  rw [fractionLength, hlen, if_neg (by omega)]

/-- A whole part that no fraction follows is the whole number. -/
theorem numberLength_whole (hw : w ∈ digits) (hr : Breaks Char.isDigit r)
    (hf : ¬ StartsFraction r) : numberLength (w ++ r) = w.length := by
  obtain ⟨-, hall⟩ := mem_digits.mp hw
  rw [numberLength, digitsLength_append hall hr, List.drop_left, fractionLength_eq_zero hf,
    Nat.add_zero]

/-- A number with a fraction ends where its last digits do. -/
theorem numberLength_fraction (hw : w ∈ digits) (hv : v ∈ digits)
    (hr : Breaks Char.isDigit r) :
    numberLength (w ++ '.' :: (v ++ r)) = w.length + (v.length + 1) := by
  obtain ⟨-, hall⟩ := mem_digits.mp hw
  have hbreak : Breaks Char.isDigit ('.' :: (v ++ r)) := breaks_cons.mpr rfl
  rw [numberLength, digitsLength_append hall hbreak, List.drop_left,
    fractionLength_append hv hr]

/-- The extent of a number is its length, where it goes on with neither a digit nor, unless it
has a fraction already, a fraction. -/
theorem numberLength_append (hw : w ∈ number) (hr : Breaks Char.isDigit r)
    (hf : '.' ∉ w → ¬ StartsFraction r) : numberLength (w ++ r) = w.length := by
  rcases mem_number.mp hw with hdigits | ⟨whole, hwhole, fraction, hfraction, rfl⟩
  · refine numberLength_whole hdigits hr (hf fun hpoint => ?_)
    exact absurd ((mem_digits.mp hdigits).2 '.' hpoint) (by decide)
  · rw [List.append_assoc, List.cons_append, numberLength_fraction hwhole hfraction hr,
      List.length_append, List.length_cons]

/-- Digits at the head of a text, as many as there are. -/
theorem exists_digits (hc : c.isDigit = true) (rest : List Char) :
    ∃ w ∈ digits, ∃ r, c :: rest = w ++ r ∧ Breaks Char.isDigit r := by
  obtain ⟨w, r, htext, hrun, hall, hbreak⟩ := exists_run Char.isDigit (c :: rest)
  refine ⟨w, mem_digits.mpr ⟨?_, hall⟩, r, htext, hbreak⟩
  rintro rfl
  rw [List.takeWhile_cons_of_pos hc] at hrun
  exact List.cons_ne_nil _ _ hrun

/-- No number at the head of a text is longer than the extent of the text's number. -/
theorem length_le_numberLength (hv : v ∈ number) (h : v <+: text) :
    v.length ≤ numberLength text := by
  rcases mem_number.mp hv with hdigits | ⟨whole, hwhole, fraction, hfraction, rfl⟩
  · have hlength := length_le_takeWhile (mem_digits.mp hdigits).2 h
    exact Nat.le_trans hlength (Nat.le_add_right _ _)
  · obtain ⟨t, rfl⟩ := h
    -- the fraction may go on in `t`, up to the first character there that is no digit
    obtain ⟨more, r, rfl, -, hmore, hbreak⟩ := exists_run Char.isDigit t
    have hlong : fraction ++ more ∈ digits := by
      obtain ⟨hne, hall⟩ := mem_digits.mp hfraction
      exact mem_digits.mpr ⟨List.append_ne_nil_of_left_ne_nil hne more,
        List.forall_mem_append.mpr ⟨hall, hmore⟩⟩
    have hlen := numberLength_fraction hwhole hlong hbreak
    simp only [List.append_assoc, List.cons_append, List.length_append,
      List.length_cons] at hlen ⊢
    omega

/-! ### Strings -/

/-- A quote closes the string, and is counted. -/
theorem closingLength?_quote (text : List Char) : closingLength? ('"' :: text) = some 1 := rfl

/-- A backslash and the character after it are passed together. -/
theorem closingLength?_escape (c : Char) (text : List Char) :
    closingLength? ('\\' :: c :: text) = (closingLength? text).map (· + 2) := rfl

/-- Any other character is passed by itself. -/
theorem closingLength?_plain (hq : c ≠ '"') (hb : c ≠ '\\') (text : List Char) :
    closingLength? (c :: text) = (closingLength? text).map (· + 1) := by
  rw [closingLength?]
  · exact hq
  · rintro rfl
    exact absurd rfl hb
  · exact fun _ _ hc _ => hb hc

/-- A closing quote is found behind every string body. -/
theorem closingLength?_append {body : List Char} (hbody : body ∈ stringBody) (r : List Char) :
    closingLength? (body ++ '"' :: r) = some (body.length + 1) := by
  obtain ⟨parts, rfl, hparts⟩ := Language.mem_kstar.mp hbody
  clear hbody
  induction parts with
  | nil => exact closingLength?_quote r
  | cons part parts ih =>
      rw [List.forall_mem_cons] at hparts
      have hrest := ih hparts.2
      rcases hparts.1 with ⟨c, ⟨hq, hb⟩, rfl⟩ | hescape
      · rw [List.flatten_cons, List.append_assoc, List.singleton_append,
          closingLength?_plain hq hb, hrest]
        simp only [Option.map_some, List.length_append, List.length_singleton]
        congr 1
        omega
      · obtain ⟨_, _, rfl, rfl, c, -, rfl⟩ := cons_mem_one_mul.mp hescape
        rw [List.flatten_cons, List.append_assoc, List.cons_append, List.singleton_append,
          closingLength?_escape, hrest]
        simp only [Option.map_some, List.length_append, List.length_cons, List.length_nil]
        congr 1
        omega

/-- What stands before a closing quote is a string body. -/
theorem exists_body_of_closingLength? {n : ℕ} (h : closingLength? text = some n) :
    ∃ body ∈ stringBody, ∃ r, text = body ++ '"' :: r ∧ n = body.length + 1 := by
  fun_induction closingLength? text generalizing n with
  | case1 => cases h
  | case2 r =>
      cases h
      exact ⟨[], Language.nil_mem_kstar _, r, rfl, rfl⟩
  | case3 => cases h
  | case4 c text ih =>
      obtain ⟨m, hm, rfl⟩ := Option.map_eq_some_iff.mp h
      obtain ⟨body, hbody, r, rfl, rfl⟩ := ih hm
      refine ⟨['\\', c] ++ body, append_mem_kstar (Or.inr ?_) hbody, r, rfl, ?_⟩
      · exact cons_mem_one_mul.mpr ⟨'\\', [c], rfl, rfl, c, trivial, rfl⟩
      · simp only [List.length_append, List.length_cons, List.length_nil]
        omega
  | case5 c text hq hb hescape ih =>
      obtain ⟨m, hm, rfl⟩ := Option.map_eq_some_iff.mp h
      obtain ⟨body, hbody, r, rfl, rfl⟩ := ih hm
      refine ⟨[c] ++ body, append_mem_kstar (Or.inl ⟨c, ⟨hq, ?_⟩, rfl⟩) hbody, r, rfl, ?_⟩
      · rintro rfl
        cases body with
        | nil => exact hescape _ _ rfl rfl
        | cons d body => exact hescape _ _ rfl rfl
      · simp only [List.length_append, List.length_cons, List.length_nil]
        omega

/-- The extent of a string is that of the closed string at the head of the text. -/
theorem closingLength?_eq_some_iff {n : ℕ} :
    closingLength? text = some n ↔
      ∃ v ∈ closedString, v <+: '"' :: text ∧ v.length = n + 1 := by
  constructor
  · intro h
    obtain ⟨body, hbody, r, rfl, rfl⟩ := exists_body_of_closingLength? h
    refine ⟨_, mem_closedString.mpr ⟨body, hbody, rfl⟩, ⟨r, by simp⟩, by simp⟩
  · rintro ⟨_, hv, ⟨r, hr⟩, hlen⟩
    obtain ⟨body, hbody, rfl⟩ := mem_closedString.mp hv
    obtain rfl : body ++ '"' :: r = text := by simpa using hr
    rw [closingLength?_append hbody]
    simpa using hlen

/-- A text begins with at most one closed string. -/
theorem closedString_prefix_unique {u : List Char} (hu : u ∈ closedString)
    (hv : v ∈ closedString) (hut : u <+: text) (hvt : v <+: text) : u = v := by
  obtain ⟨b, hb, rfl⟩ := mem_closedString.mp hu
  obtain ⟨r, rfl⟩ := hut
  have hlen : closingLength? (b ++ '"' :: r) = some (b.length + 1) := closingLength?_append hb r
  obtain ⟨m, hm⟩ : ∃ m, v.length = m + 1 := by
    obtain ⟨d, -, rfl⟩ := mem_closedString.mp hv
    exact ⟨_, rfl⟩
  have hlen' := closingLength?_eq_some_iff.mpr ⟨v, hv, by simpa using hvt, hm⟩
  obtain rfl : b.length + 1 = m := Option.some.inj (hlen.symm.trans hlen')
  exact (List.prefix_of_prefix_length_le ⟨r, rfl⟩ hvt (by simp [hm])).eq_of_length (by simp [hm])

end ScriptLexer.Grammar
