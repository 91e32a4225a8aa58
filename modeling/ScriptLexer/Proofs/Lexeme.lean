import ScriptLexer.Proofs.Grammar

/-!
# Lexemes and the Item a Text Begins With

`IsLexeme k w` says which texts `w` are lexemes of a kind `k`, in any surroundings, and
`Stops k w r` says when such a lexeme ends before the rest `r` of a text. `IsGapItem w r` does
both for the pieces that mean nothing: blanks, line ends and comments. None of them mentions
the function by which a script is cut.

## Main results

* `exists_item` — every text begins with a gap item, or with a lexeme that stops.
* `first_of_isGapItem`, `first_of_isLexeme` — and that is the item it is cut at, so a text
  begins with exactly one item.

All later modules work from these three statements; none opens `Item.first`.
-/

namespace ScriptLexer

open Grammar

/-- A character that is skipped by itself: a blank or the end of a line. -/
def IsSpace (c : Char) : Prop :=
  c = ' ' ∨ c = '\r' ∨ c = '\t' ∨ c = '\n'

instance : DecidablePred IsSpace := fun c =>
  inferInstanceAs (Decidable (c = ' ' ∨ c = '\r' ∨ c = '\t' ∨ c = '\n'))

/-- A character at which no lexeme starts, because a gap does. -/
def StartsGap (c : Char) : Prop :=
  IsSpace c ∨ c = '#'

instance : DecidablePred StartsGap := fun c => inferInstanceAs (Decidable (IsSpace c ∨ c = '#'))

/-- The line ends with `r`: `r` is empty or begins with the line's end. -/
abbrev EndsLine (r : List Char) : Prop :=
  Breaks (· != '\n') r

/-- `IsGapItem w r`: a text that goes on with `r` after `w` begins with the gap item `w`. A
comment takes everything up to the end of its line, and leaves that. -/
inductive IsGapItem : List Char → List Char → Prop
  | space {c : Char} {r : List Char} : IsSpace c → IsGapItem [c] r
  | comment {w r : List Char} : '\n' ∉ w → EndsLine r → IsGapItem ('#' :: w) r

/-- A character that starts neither a gap nor a lexeme of the grammar. -/
structure IsStray (c : Char) : Prop where
  not_gap : ¬ StartsGap c
  not_quote : c ≠ '"'
  not_symbol : ∀ s : Symbol, s.spelling.toList.head? ≠ some c
  not_word : ¬ StartsWord c
  not_digit : ¬ IsDigit c

/-- A text that opens a string which is never closed in it: no prefix is a closed string. -/
def IsOpenString (w : List Char) : Prop :=
  w.head? = some '"' ∧ ∀ v ∈ closedString, ¬ v <+: w

/-- `IsLexeme k w`: the text `w` is a lexeme of kind `k`. -/
inductive IsLexeme : Kind → List Char → Prop
  | symbol (s : Symbol) : IsLexeme (.symbol s) s.spelling.toList
  | keyword (k : Keyword) : IsLexeme (.keyword k) k.text.toList
  | number {w : List Char} : w ∈ number → IsLexeme .number w
  | identifier {w : List Char} :
      w ∈ word → (∀ k : Keyword, k.text.toList ≠ w) → IsLexeme .identifier w
  | string {w : List Char} : w ∈ closedString → IsLexeme .string w
  | stray {c : Char} : IsStray c → IsLexeme .error [c]
  | openString {w : List Char} : IsOpenString w → IsLexeme .error w

/-- `Stops k w r`: the lexeme `w` of kind `k` does not go on into `r`. A closed string and a
stray character never do; a string that does not close takes everything. -/
def Stops : Kind → List Char → List Char → Prop
  | .symbol s, _, r => s.withEquals? ≠ none → Breaks (· == '=') r
  | .keyword _, _, r => Breaks Character.continuesWord r
  | .identifier, _, r => Breaks Character.continuesWord r
  | .number, w, r => Breaks Char.isDigit r ∧ ('.' ∉ w → ¬ StartsFraction r)
  | .error, w, r => w.head? = some '"' → r = []
  | .string, _, _ => True
  | .eof, _, _ => True

/-! ### Starting characters -/

variable {c : Char} {w r : List Char}

/-- The spaces are the blanks and the line's end that the scanner tests for. -/
theorem isSpace_iff : IsSpace c ↔ (Character.isBlank c || c == '\n') = true := by
  simp [IsSpace, Character.isBlank, or_assoc]

/-- A digit starts no word. -/
theorem startsWord_of_isDigit (h : c.isDigit = true) : Character.startsWord c = false := by
  by_contra hw
  rw [Bool.not_eq_false, ← startsWord_iff] at hw
  obtain ⟨-, h9⟩ := isDigit_iff.mpr h
  rcases hw with ⟨hA, -⟩ | ⟨ha, -⟩ | rfl | rfl
  · exact absurd (Char.le_trans hA h9) (by decide)
  · exact absurd (Char.le_trans ha h9) (by decide)
  · exact absurd h9 (by decide)
  · exact absurd h9 (by decide)

/-- A spelling begins with a character that is a symbol by itself. -/
theorem exists_ofChar?_spelling (s : Symbol) :
    ∃ c v t, s.spelling.toList = c :: v ∧ Symbol.ofChar? c = some t := by
  rcases s.spelling_cases with ⟨c, hc, hlist⟩ | ⟨t, c, hc, -, hlist⟩
  · exact ⟨c, [], s, hlist, hc⟩
  · exact ⟨c, ['='], t, hlist, hc⟩

/-- A character spells no symbol exactly when no spelling begins with it. -/
theorem ofChar?_eq_none_iff :
    Symbol.ofChar? c = none ↔ ∀ s : Symbol, s.spelling.toList.head? ≠ some c := by
  constructor
  · rintro hc s hs
    obtain ⟨d, v, t, hlist, hd⟩ := exists_ofChar?_spelling s
    rw [hlist, List.head?_cons, Option.some.injEq] at hs
    subst hs
    exact absurd (hd.symm.trans hc) (Option.some_ne_none t)
  · intro h
    cases hc : Symbol.ofChar? c with
    | none => rfl
    | some s => exact absurd (by rw [Symbol.spelling_of_ofChar? hc, List.head?_cons]) (h s)

/-- A character that spells a symbol starts neither a number nor a word. -/
theorem class_of_ofChar? {s : Symbol} (h : Symbol.ofChar? c = some s) :
    c.isDigit = false ∧ Character.startsWord c = false := by
  rw [Symbol.ofChar?.eq_def] at h
  split at h
  case h_14 => cases h
  all_goals exact ⟨rfl, rfl⟩

/-- Digits, word characters and symbols start neither gaps nor strings. -/
theorem not_startsGap
    (h : c.isDigit = true ∨ Character.startsWord c = true ∨ Symbol.ofChar? c ≠ none) :
    ¬ StartsGap c ∧ c ≠ '"' := by
  constructor
  · rintro ((rfl | rfl | rfl | rfl) | rfl) <;> revert h <;> decide
  · rintro rfl
    revert h
    decide

/-- A keyword is spelled as a word. -/
theorem keyword_mem_word (k : Keyword) : k.text.toList ∈ word := by
  cases k <;> exact mem_word.mpr ⟨_, _, rfl, rfl, List.all_eq_true.mp rfl⟩

/-- Every character of a text without a line's end differs from one. -/
theorem bne_of_notMem (hw : '\n' ∉ w) : ∀ d ∈ w, (d != '\n') = true :=
  fun _ hd => bne_iff_ne.mpr fun he => hw (he ▸ hd)

/-! ### Every text begins with an item -/

/-- A text that starts with a digit begins with a number. -/
theorem exists_number (hc : c.isDigit = true) (rest : List Char) :
    ∃ w r, c :: rest = w ++ r ∧ IsLexeme .number w ∧ Stops .number w r := by
  obtain ⟨whole, hwhole, tail, htext, htail⟩ := exists_digits hc rest
  by_cases hf : StartsFraction tail
  · obtain ⟨d, v, rfl, hd⟩ := hf
    obtain ⟨fraction, hfraction, r, hv, hr⟩ := exists_digits hd v
    refine ⟨whole ++ '.' :: fraction, r, ?_,
      .number (mem_number.mpr (Or.inr ⟨whole, hwhole, fraction, hfraction, rfl⟩)), hr,
      fun hpoint => absurd ?_ hpoint⟩
    · rw [htext, hv, List.append_assoc, List.cons_append]
    · exact List.mem_append_right _ List.mem_cons_self
  · exact ⟨whole, tail, htext, .number (mem_number.mpr (Or.inl hwhole)), htail, fun _ => hf⟩

/-- A text that starts with a word character begins with a keyword or an identifier. -/
theorem exists_word (hc : Character.startsWord c = true) (rest : List Char) :
    ∃ k w r, c :: rest = w ++ r ∧ IsLexeme k w ∧ Stops k w r := by
  obtain ⟨v, r, htext, -, hv, hr⟩ := exists_run Character.continuesWord rest
  by_cases hk : ∃ k : Keyword, k.text.toList = c :: v
  · obtain ⟨k, hk⟩ := hk
    exact ⟨.keyword k, c :: v, r, by rw [htext, List.cons_append], hk ▸ .keyword k, hr⟩
  · refine ⟨.identifier, c :: v, r, by rw [htext, List.cons_append], .identifier ?_ ?_, hr⟩
    · exact mem_word.mpr ⟨c, v, rfl, hc, hv⟩
    · exact fun k hw => hk ⟨k, hw⟩

/-- A text that starts with a quote begins with a string or is an open string. -/
theorem exists_string (rest : List Char) :
    ∃ k w r, '"' :: rest = w ++ r ∧ IsLexeme k w ∧ Stops k w r := by
  by_cases h : ∃ v ∈ closedString, v <+: '"' :: rest
  · obtain ⟨v, hv, r, hr⟩ := h
    exact ⟨.string, v, r, hr.symm, .string hv, trivial⟩
  · refine ⟨.error, '"' :: rest, [], (List.append_nil _).symm, .openString ⟨rfl, ?_⟩,
      fun _ => rfl⟩
    exact fun v hv hpre => h ⟨v, hv, hpre⟩

/-- A text that starts with a symbol's character begins with that symbol or its long form. -/
theorem exists_symbol {s : Symbol} (hc : Symbol.ofChar? c = some s) (rest : List Char) :
    ∃ k w r, c :: rest = w ++ r ∧ IsLexeme k w ∧ Stops k w r := by
  have hs := Symbol.spelling_of_ofChar? hc
  by_cases hlong : s.withEquals? ≠ none ∧ rest.head? = some '='
  · obtain ⟨hw, hhead⟩ := hlong
    obtain ⟨t, ht⟩ := Option.ne_none_iff_exists'.mp hw
    obtain ⟨r, rfl⟩ := List.head?_eq_some_iff.mp hhead
    refine ⟨.symbol t, t.spelling.toList, r, ?_, .symbol t, fun hne => absurd ?_ hne⟩
    · rw [Symbol.spelling_of_withEquals? ht, hs]
      rfl
    · exact Symbol.withEquals?_of_withEquals? ht
  · refine ⟨.symbol s, s.spelling.toList, rest, by rw [hs]; rfl, .symbol s, fun hne d hd => ?_⟩
    rw [beq_eq_false_iff_ne]
    rintro rfl
    exact hlong ⟨hne, hd⟩

/-- **Totality.** Every text begins with a gap item, or with a lexeme that stops. -/
theorem exists_item (c : Char) (rest : List Char) :
    (∃ w r, c :: rest = w ++ r ∧ IsGapItem w r) ∨
      ∃ k w r, c :: rest = w ++ r ∧ IsLexeme k w ∧ Stops k w r := by
  by_cases hspace : IsSpace c
  · exact Or.inl ⟨[c], rest, rfl, .space hspace⟩
  by_cases hhash : c = '#'
  · subst hhash
    obtain ⟨w, r, rfl, -, hw, hr⟩ := exists_run (· != '\n') rest
    exact Or.inl ⟨'#' :: w, r, rfl, .comment (fun h => by simpa using hw _ h) hr⟩
  right
  by_cases hquote : c = '"'
  · exact hquote ▸ exists_string rest
  by_cases hdigit : c.isDigit = true
  · exact ⟨.number, exists_number hdigit rest⟩
  by_cases hword : Character.startsWord c = true
  · exact exists_word hword rest
  cases hsymbol : Symbol.ofChar? c with
  | some s => exact exists_symbol hsymbol rest
  | none =>
      have hstray : IsStray c :=
        ⟨not_or.mpr ⟨hspace, hhash⟩, hquote, ofChar?_eq_none_iff.mp hsymbol,
          mt startsWord_iff.mp hword, mt isDigit_iff.mp hdigit⟩
      exact ⟨.error, [c], rest, rfl, .stray hstray,
        fun h => absurd (Option.some.inj h) hquote⟩

/-! ### The item is the one that a script is cut at -/

namespace Item

variable {rest : List Char}

/-- A space is passed by itself. -/
theorem first_of_isSpace (h : IsSpace c) : first c rest = gap 1 := by
  rw [first, if_pos (isSpace_iff.mp h)]

/-- A comment is passed as a whole. -/
theorem first_hash : first '#' rest = gap (commentLength rest + 1) := rfl

/-- A quote starts a string. -/
theorem first_quote : first '"' rest = ofQuote rest := rfl

/-- Past the gaps and the strings, the class of the character decides. -/
theorem first_of_not_startsGap (hg : ¬ StartsGap c) (hq : c ≠ '"') :
    first c rest =
      if c.isDigit then lexeme .number (numberLength (c :: rest))
      else if Character.startsWord c then ofWordStart c rest
      else match Symbol.ofChar? c with
        | some s => ofSymbol s rest
        | none => lexeme .error 1 := by
  obtain ⟨hs, hh⟩ := not_or.mp hg
  refine (if_neg (mt isSpace_iff.mpr hs)).trans ?_
  refine (if_neg (mt eq_of_beq hh)).trans ?_
  exact if_neg (mt eq_of_beq hq)

/-- A digit starts a number. -/
theorem first_of_isDigit (h : c.isDigit = true) :
    first c rest = lexeme .number (numberLength (c :: rest)) := by
  obtain ⟨hg, hq⟩ := not_startsGap (Or.inl h)
  rw [first_of_not_startsGap hg hq, if_pos h]

/-- A character that a word starts with starts a word. -/
theorem first_of_startsWord (h : Character.startsWord c = true) :
    first c rest = ofWordStart c rest := by
  obtain ⟨hg, hq⟩ := not_startsGap (Or.inr (Or.inl h))
  have hd : ¬ c.isDigit = true := fun hd => by
    rw [startsWord_of_isDigit hd] at h
    exact Bool.false_ne_true h
  rw [first_of_not_startsGap hg hq, if_neg hd, if_pos h]

/-- A character with a symbol starts an operator or a punctuation mark. -/
theorem first_of_ofChar? {s : Symbol} (h : Symbol.ofChar? c = some s) :
    first c rest = ofSymbol s rest := by
  obtain ⟨hg, hq⟩ := not_startsGap (c := c) (Or.inr (Or.inr (h ▸ Option.some_ne_none s)))
  obtain ⟨hd, hw⟩ := class_of_ofChar? h
  rw [first_of_not_startsGap hg hq, if_neg (Bool.eq_false_iff.mp hd),
    if_neg (Bool.eq_false_iff.mp hw), h]

/-- A stray character is a malformed lexeme by itself. -/
theorem first_of_isStray (h : IsStray c) : first c rest = lexeme .error 1 := by
  rw [first_of_not_startsGap h.not_gap h.not_quote, if_neg (mt isDigit_iff.mpr h.not_digit),
    if_neg (mt startsWord_iff.mpr h.not_word), ofChar?_eq_none_iff.mpr h.not_symbol]

/-- The first character and the rest of a text, from an item and what follows it. -/
theorem head_tail {d : Char} {v : List Char} (h : c :: rest = d :: v ++ r) :
    c = d ∧ rest = v ++ r := by
  simpa using h

/-- A text is cut at the gap item that it begins with. -/
theorem first_of_isGapItem (h : IsGapItem w r) (htext : c :: rest = w ++ r) :
    first c rest = gap w.length := by
  cases h with
  | space hc =>
      obtain ⟨rfl, -⟩ := List.cons.inj htext
      exact first_of_isSpace hc
  | comment hw hr =>
      obtain ⟨rfl, rfl⟩ := head_tail htext
      rw [first_hash, commentLength, takeWhile_append_of_breaks (bne_of_notMem hw) hr,
        List.length_cons]

/-- A text is cut at the word that it begins with, whose kind depends on what is reserved. -/
theorem first_of_word (hw : w ∈ word) (hr : Breaks Character.continuesWord r)
    (htext : c :: rest = w ++ r) :
    first c rest = lexeme (.ofWord (String.ofList w)) w.length := by
  obtain ⟨d, v, rfl, hd, hv⟩ := mem_word.mp hw
  obtain ⟨rfl, rfl⟩ := head_tail htext
  rw [first_of_startsWord hd, ofWordStart, takeWhile_append_of_breaks hv hr, List.length_cons]

/-- A reserved word is a keyword. -/
theorem ofWord_keyword (k : Keyword) : Kind.ofWord (String.ofList k.text.toList) = .keyword k := by
  rw [String.ofList_toList, Kind.ofWord, Keyword.ofText?_eq_some_iff.mpr rfl]

/-- A word that is not reserved is an identifier. -/
theorem ofWord_identifier (hw : ∀ k : Keyword, k.text.toList ≠ w) :
    Kind.ofWord (String.ofList w) = .identifier := by
  have hnone : Keyword.ofText? (String.ofList w) = none := by
    rw [Option.eq_none_iff_forall_ne_some]
    intro k hsome
    apply hw k
    rw [Keyword.ofText?_eq_some_iff.mp hsome, String.toList_ofList]
  rw [Kind.ofWord, hnone]

/-- A text is cut at the number that it begins with. -/
theorem first_of_number (hw : w ∈ number) (hr : Breaks Char.isDigit r)
    (hf : '.' ∉ w → ¬ StartsFraction r) (htext : c :: rest = w ++ r) :
    first c rest = lexeme .number w.length := by
  obtain ⟨d, v, rfl, hd⟩ := exists_digit_of_mem_number hw
  obtain ⟨rfl, rfl⟩ := head_tail htext
  rw [first_of_isDigit hd, htext, numberLength_append hw hr hf]

/-- A text is cut at the string that it begins with. -/
theorem first_of_closedString (hw : w ∈ closedString) (htext : c :: rest = w ++ r) :
    first c rest = lexeme .string w.length := by
  obtain ⟨body, hbody, rfl⟩ := mem_closedString.mp hw
  obtain ⟨rfl, rfl⟩ := head_tail htext
  rw [first_quote, ofQuote, List.append_assoc, List.singleton_append,
    closingLength?_append hbody]
  simp

/-- A text that opens a string and never closes it is one item. -/
theorem first_of_isOpenString (hw : IsOpenString (c :: rest)) :
    first c rest = lexeme .error (rest.length + 1) := by
  obtain ⟨hhead, hopen⟩ := hw
  obtain rfl : c = '"' := Option.some.inj hhead
  have hnone : closingLength? rest = none := by
    rw [Option.eq_none_iff_forall_ne_some]
    intro n hsome
    obtain ⟨v, hv, hpre, -⟩ := closingLength?_eq_some_iff.mp hsome
    exact hopen v hv hpre
  rw [first_quote, ofQuote, hnone]

/-- An operator takes a `=` that follows it directly along. -/
theorem ofSymbol_long {s t : Symbol} (h : s.withEquals? = some t) :
    ofSymbol s ('=' :: rest) = lexeme (.symbol t) 2 := by
  simp only [ofSymbol, h]

/-- A symbol is cut by itself if no `=` follows, or if none makes it longer. -/
theorem ofSymbol_short {s : Symbol} (h : s.withEquals? ≠ none → Breaks (· == '=') rest) :
    ofSymbol s rest = lexeme (.symbol s) 1 := by
  rw [ofSymbol]
  rintro t v hs rfl
  have hbreak := h (hs ▸ Option.some_ne_none t)
  simp at hbreak

/-- A text is cut at the symbol that it begins with, in its longest form. -/
theorem first_of_symbol {s : Symbol} (hr : s.withEquals? ≠ none → Breaks (· == '=') r)
    (htext : c :: rest = s.spelling.toList ++ r) :
    first c rest = lexeme (.symbol s) s.spelling.toList.length := by
  rcases s.spelling_cases with ⟨d, hd, hlist⟩ | ⟨t, d, hd, ht, hlist⟩
  · rw [hlist] at htext ⊢
    obtain ⟨rfl, rfl⟩ := head_tail htext
    rw [first_of_ofChar? hd]
    exact ofSymbol_short hr
  · rw [hlist] at htext ⊢
    obtain ⟨rfl, rfl⟩ := head_tail htext
    rw [first_of_ofChar? hd]
    exact ofSymbol_long ht

/-- A text is cut at the lexeme that it begins with. -/
theorem first_of_isLexeme {k : Kind} (h : IsLexeme k w) (hr : Stops k w r)
    (htext : c :: rest = w ++ r) : first c rest = lexeme k w.length := by
  cases h with
  | symbol s => exact first_of_symbol hr htext
  | keyword k => rw [first_of_word (keyword_mem_word k) hr htext, ofWord_keyword]
  | number hw => exact first_of_number hw hr.1 hr.2 htext
  | identifier hw hk => rw [first_of_word hw hr htext, ofWord_identifier hk]
  | string hw => exact first_of_closedString hw htext
  | stray hc =>
      obtain ⟨rfl, -⟩ := List.cons.inj htext
      exact first_of_isStray hc
  | openString hw =>
      obtain rfl : r = [] := hr hw.1
      rw [List.append_nil] at htext
      subst htext
      exact first_of_isOpenString hw

end Item

/-! ### A text begins with exactly one item -/

variable {w₁ w₂ r₁ r₂ : List Char} {k k₁ k₂ : Kind}

/-- A gap item has at least one character. -/
theorem IsGapItem.ne_nil (h : IsGapItem w r) : w ≠ [] := by
  cases h <;> exact List.cons_ne_nil _ _

/-- A lexeme starts where no gap does. -/
theorem IsLexeme.exists_cons (h : IsLexeme k w) : ∃ c v, w = c :: v ∧ ¬ StartsGap c := by
  cases h with
  | symbol s =>
      obtain ⟨c, v, t, hlist, hc⟩ := exists_ofChar?_spelling s
      exact ⟨c, v, hlist, (not_startsGap (Or.inr (Or.inr (hc ▸ Option.some_ne_none t)))).1⟩
  | keyword k =>
      obtain ⟨c, v, hlist, hc, -⟩ := mem_word.mp (keyword_mem_word k)
      exact ⟨c, v, hlist, (not_startsGap (Or.inr (Or.inl hc))).1⟩
  | number hw =>
      obtain ⟨c, v, hlist, hc⟩ := exists_digit_of_mem_number hw
      exact ⟨c, v, hlist, (not_startsGap (Or.inl hc)).1⟩
  | identifier hw =>
      obtain ⟨c, v, hlist, hc, -⟩ := mem_word.mp hw
      exact ⟨c, v, hlist, (not_startsGap (Or.inr (Or.inl hc))).1⟩
  | string hw =>
      obtain ⟨body, -, hlist⟩ := mem_closedString.mp hw
      exact ⟨'"', _, hlist, by decide⟩
  | stray hc => exact ⟨_, [], rfl, hc.not_gap⟩
  | openString hw =>
      obtain ⟨v, hlist⟩ := List.head?_eq_some_iff.mp hw.1
      exact ⟨'"', v, hlist, by decide⟩

/-- A lexeme has at least one character. -/
theorem IsLexeme.ne_nil (h : IsLexeme k w) : w ≠ [] := by
  obtain ⟨c, v, rfl, -⟩ := h.exists_cons
  exact List.cons_ne_nil c v

/-- The end of a script is no lexeme. -/
theorem IsLexeme.kind_ne_eof (h : IsLexeme k w) : k ≠ .eof := by
  rintro rfl
  cases h

/-- A text that begins with one that is not empty has a first character. -/
theorem exists_head (hw : w ≠ []) (r : List Char) : ∃ c rest, c :: rest = w ++ r := by
  obtain ⟨c, v, rfl⟩ := List.exists_cons_of_ne_nil hw
  exact ⟨c, v ++ r, rfl⟩

/-- Of two gap items that a text begins with, both are the same. -/
theorem IsGapItem.unique (h₁ : IsGapItem w₁ r₁) (h₂ : IsGapItem w₂ r₂)
    (htext : w₁ ++ r₁ = w₂ ++ r₂) : w₁ = w₂ ∧ r₁ = r₂ := by
  obtain ⟨c, rest, hc⟩ := exists_head h₁.ne_nil r₁
  have hitem := (Item.first_of_isGapItem h₁ hc).symm.trans
    (Item.first_of_isGapItem h₂ (hc.trans htext))
  exact List.append_inj htext (Item.gap.inj hitem)

/-- Of two lexemes that a text begins with, both are the same. -/
theorem IsLexeme.unique (h₁ : IsLexeme k₁ w₁) (hr₁ : Stops k₁ w₁ r₁) (h₂ : IsLexeme k₂ w₂)
    (hr₂ : Stops k₂ w₂ r₂) (htext : w₁ ++ r₁ = w₂ ++ r₂) : k₁ = k₂ ∧ w₁ = w₂ ∧ r₁ = r₂ := by
  obtain ⟨c, rest, hc⟩ := exists_head h₁.ne_nil r₁
  have hitem := (Item.first_of_isLexeme h₁ hr₁ hc).symm.trans
    (Item.first_of_isLexeme h₂ hr₂ (hc.trans htext))
  obtain ⟨hk, hlen⟩ := Item.lexeme.inj hitem
  exact ⟨hk, List.append_inj htext hlen⟩

/-- No text begins with both a gap item and a lexeme. -/
theorem IsGapItem.append_ne (h₁ : IsGapItem w₁ r₁) (h₂ : IsLexeme k w₂) (hr₂ : Stops k w₂ r₂) :
    w₁ ++ r₁ ≠ w₂ ++ r₂ := by
  intro htext
  obtain ⟨c, rest, hc⟩ := exists_head h₁.ne_nil r₁
  have hitem := (Item.first_of_isGapItem h₁ hc).symm.trans
    (Item.first_of_isLexeme h₂ hr₂ (hc.trans htext))
  exact Item.noConfusion hitem

/-! ### Gaps keep lexemes apart -/

/-- A text that is empty or begins where a gap does. -/
def GapAhead (r : List Char) : Prop :=
  ∀ c ∈ r.head?, StartsGap c

/-- Where a gap begins, any class without the starts of gaps is broken off. -/
theorem GapAhead.breaks {p : Char → Bool} (hr : GapAhead r)
    (hp : ∀ c, StartsGap c → p c = false) : Breaks p r :=
  fun c hc => hp c (hr c hc)

/-- Every lexeme stops before a gap, except a string that does not close. -/
theorem stops_of_gapAhead (hr : GapAhead r)
    (hopen : k = .error → w.head? = some '"' → r = []) : Stops k w r := by
  cases k with
  | symbol s =>
      intro _
      refine hr.breaks fun c hc => ?_
      rcases hc with (rfl | rfl | rfl | rfl) | rfl <;> rfl
  | keyword | identifier =>
      refine hr.breaks fun c hc => ?_
      rcases hc with (rfl | rfl | rfl | rfl) | rfl <;> rfl
  | number =>
      constructor
      · refine hr.breaks fun c hc => ?_
        rcases hc with (rfl | rfl | rfl | rfl) | rfl <;> rfl
      · rintro - ⟨d, v, rfl, -⟩
        exact absurd (hr '.' rfl) (by decide)
  | error => exact hopen rfl
  | string | eof => trivial

end ScriptLexer
