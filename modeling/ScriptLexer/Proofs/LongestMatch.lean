import ScriptLexer.Proofs.Scan

/-!
# Longest Match

The tokens of a script, specified without a scanner: skip what separates lexemes, take the
longest prefix of the rest that belongs to a language of the grammar, name its kind, go on
behind it. `NextItem` states one step of this and `Munches` its repetition over a whole text.

That the scanner agrees is not a matter of its code being greedy. It decides after at most two
characters of lookahead, by conditions on the characters that follow (`Stops`), so each of
these conditions has to rule out every longer lexeme of every language.

## Main results

* `IsLexeme.isLongestPrefix` — a lexeme that stops is the longest in any of the languages.
* `nextItem_gap_iff`, `nextItem_lexeme_iff` — one step of the specification is one item.
* `munches_iff` — the specification has exactly one solution on every script, its tokens.
-/

namespace ScriptLexer

open Grammar

/-! ### The specification -/

/-- `w` is the longest prefix of `text` that belongs to `L`. -/
structure IsLongestPrefix (L : Language Char) (w text : List Char) : Prop where
  mem : w ∈ L
  starts : w <+: text
  longest : ∀ v ∈ L, v <+: text → v.length ≤ w.length

/-- The kinds with a single spelling: symbols and keywords. -/
def Kind.IsFixed : Kind → Prop
  | symbol _ => True
  | keyword _ => True
  | _ => False

/-- `KindOf w k`: a lexeme `w` of the grammar is of kind `k`. It is of the symbol or keyword
that is listed under this very name if there is one, else its language decides. -/
inductive KindOf (w : List Char) : Kind → Prop
  | fixed {k : Kind} : k.IsFixed → k.name.toList = w → KindOf w k
  | number : (∀ k : Kind, k.IsFixed → k.name.toList ≠ w) → w ∈ number → KindOf w .number
  | identifier : (∀ k : Kind, k.IsFixed → k.name.toList ≠ w) → w ∈ word → KindOf w .identifier
  | string : (∀ k : Kind, k.IsFixed → k.name.toList ≠ w) → w ∈ closedString → KindOf w .string

/-- `NextItem text k w`: the next item of `text` is `w`, a lexeme of some kind or, for `none`,
skipped. A text in no prefix of which there is a lexeme is in error: all of it if it opens a
string, else its first character. -/
inductive NextItem : List Char → Option Kind → List Char → Prop
  | space {c : Char} {r : List Char} : IsSpace c → NextItem (c :: r) none [c]
  | comment {r w : List Char} :
      IsLongestPrefix {v | '\n' ∉ v} w ('#' :: r) → NextItem ('#' :: r) none w
  | lexeme {c : Char} {r w : List Char} {k : Kind} : ¬ StartsGap c →
      IsLongestPrefix lexical w (c :: r) → KindOf w k → NextItem (c :: r) (some k) w
  | openString {r : List Char} :
      (∀ v ∈ lexical, ¬ v <+: '"' :: r) → NextItem ('"' :: r) (some .error) ('"' :: r)
  | stray {c : Char} {r : List Char} : ¬ StartsGap c → c ≠ '"' →
      (∀ v ∈ lexical, ¬ v <+: c :: r) → NextItem (c :: r) (some .error) [c]

/-- `Munches text us`: item by item, `text` is read into the kinds and lexemes `us`. -/
inductive Munches : List Char → List (Kind × String) → Prop
  | done : Munches [] []
  | skip {w r : List Char} {us : List (Kind × String)} :
      NextItem (w ++ r) none w → Munches r us → Munches (w ++ r) us
  | take {w r : List Char} {k : Kind} {us : List (Kind × String)} :
      NextItem (w ++ r) (some k) w → Munches r us →
      Munches (w ++ r) ((k, String.ofList w) :: us)

variable {c : Char} {w r v text : List Char} {k : Kind}

/-! ### The first character decides the language -/

/-- The lexemes of the grammar are those of its four languages. -/
theorem mem_lexical : v ∈ lexical ↔ v ∈ spelled ∨ v ∈ number ∨ v ∈ word ∨ v ∈ closedString := by
  simp only [lexical, Language.mem_add, or_assoc]

/-- A lexeme of the grammar starts with a character of its language. -/
theorem lexical_cases (hv : c :: v ∈ lexical) :
    (c :: v ∈ spelled ∧ ∃ s, Symbol.ofChar? c = some s) ∨
      (c :: v ∈ number ∧ c.isDigit = true) ∨
      (c :: v ∈ word ∧ Character.startsWord c = true) ∨ (c :: v ∈ closedString ∧ c = '"') := by
  rcases mem_lexical.mp hv with h | h | h | h
  · obtain ⟨s, hs⟩ := h
    obtain ⟨d, u, t, hlist, hd⟩ := exists_ofChar?_spelling s
    obtain ⟨rfl, -⟩ := List.cons.inj (hlist.symm.trans hs)
    exact Or.inl ⟨⟨s, hs⟩, t, hd⟩
  · obtain ⟨d, u, hlist, hd⟩ := exists_digit_of_mem_number h
    obtain ⟨rfl, -⟩ := List.cons.inj hlist
    exact Or.inr (Or.inl ⟨h, hd⟩)
  · obtain ⟨d, u, hlist, hd, -⟩ := mem_word.mp h
    obtain ⟨rfl, -⟩ := List.cons.inj hlist
    exact Or.inr (Or.inr (Or.inl ⟨h, hd⟩))
  · obtain ⟨body, -, hlist⟩ := mem_closedString.mp h
    exact Or.inr (Or.inr (Or.inr ⟨h, (List.cons.inj hlist).1⟩))

/-- No lexeme of the grammar is empty. -/
theorem ne_nil_of_mem_lexical (hv : v ∈ lexical) : v ≠ [] := by
  rintro rfl
  rcases mem_lexical.mp hv with ⟨s, hs⟩ | h | h | h
  · obtain ⟨c, u, t, hlist, -⟩ := exists_ofChar?_spelling s
    exact List.cons_ne_nil c u (hlist.symm.trans hs)
  · obtain ⟨c, u, hlist, -⟩ := exists_digit_of_mem_number h
    exact List.cons_ne_nil c u hlist.symm
  · obtain ⟨c, u, hlist, -, -⟩ := mem_word.mp h
    exact List.cons_ne_nil c u hlist.symm
  · obtain ⟨body, -, hlist⟩ := mem_closedString.mp h
    exact List.cons_ne_nil _ _ hlist.symm

/-- A lexeme of the grammar at the head of a text shares the text's first character. -/
theorem exists_cons_of_mem_lexical (hv : v ∈ lexical) (h : v <+: c :: r) :
    ∃ u, v = c :: u ∧ u <+: r := by
  obtain ⟨d, u, rfl⟩ := List.exists_cons_of_ne_nil (ne_nil_of_mem_lexical hv)
  obtain ⟨rfl, hu⟩ := List.cons_prefix_cons.mp h
  exact ⟨u, rfl, hu⟩

/-- A lexeme that begins with a symbol is a symbol. -/
theorem mem_spelled_of_mem_lexical {s : Symbol} (hc : Symbol.ofChar? c = some s)
    (hv : c :: v ∈ lexical) : c :: v ∈ spelled := by
  obtain ⟨hdigit, hword⟩ := class_of_ofChar? hc
  rcases lexical_cases hv with ⟨h, -⟩ | ⟨-, h⟩ | ⟨-, h⟩ | ⟨-, rfl⟩
  · exact h
  · exact absurd h (Bool.eq_false_iff.mp hdigit)
  · exact absurd h (Bool.eq_false_iff.mp hword)
  · cases hc

/-- A lexeme that begins with a digit is a number. -/
theorem mem_number_of_mem_lexical (hc : c.isDigit = true) (hv : c :: v ∈ lexical) :
    c :: v ∈ number := by
  rcases lexical_cases hv with ⟨-, s, h⟩ | ⟨h, -⟩ | ⟨-, h⟩ | ⟨-, rfl⟩
  · exact absurd hc (Bool.eq_false_iff.mp (class_of_ofChar? h).1)
  · exact h
  · exact absurd h (Bool.eq_false_iff.mp (startsWord_of_isDigit hc))
  · exact absurd hc (by decide)

/-- A lexeme that begins as a word does is a word. -/
theorem mem_word_of_mem_lexical (hc : Character.startsWord c = true) (hv : c :: v ∈ lexical) :
    c :: v ∈ word := by
  rcases lexical_cases hv with ⟨-, s, h⟩ | ⟨-, h⟩ | ⟨h, -⟩ | ⟨-, rfl⟩
  · exact absurd hc (Bool.eq_false_iff.mp (class_of_ofChar? h).2)
  · exact absurd hc (Bool.eq_false_iff.mp (startsWord_of_isDigit h))
  · exact h
  · exact absurd hc (by decide)

/-- A lexeme that begins with a quote is a closed string. -/
theorem mem_closedString_of_mem_lexical (hv : '"' :: v ∈ lexical) : '"' :: v ∈ closedString := by
  rcases lexical_cases hv with ⟨-, s, h⟩ | ⟨-, h⟩ | ⟨-, h⟩ | ⟨h, -⟩
  · cases h
  · exact absurd h (by decide)
  · exact absurd h (by decide)
  · exact h

/-- Nothing of the grammar starts with a stray character. -/
theorem notMem_lexical_of_isStray (hc : IsStray c) : c :: v ∉ lexical := by
  intro hv
  rcases lexical_cases hv with ⟨⟨s, hs⟩, -⟩ | ⟨-, h⟩ | ⟨-, h⟩ | ⟨-, h⟩
  · exact hc.not_symbol s (by rw [hs, List.head?_cons])
  · exact hc.not_digit (isDigit_iff.mpr h)
  · exact hc.not_word (startsWord_iff.mpr h)
  · exact hc.not_quote h

/-! ### A lexeme that stops is the longest -/

/-- No symbol at the head of a text is longer than the one that stops there. -/
theorem length_le_of_mem_spelled {s : Symbol}
    (hr : s.withEquals? ≠ none → Breaks (· == '=') r) (hv : v ∈ spelled)
    (h : v <+: s.spelling.toList ++ r) : v.length ≤ s.spelling.toList.length := by
  obtain ⟨s', rfl⟩ := hv
  have hpos : 1 ≤ s.spelling.toList.length := by
    obtain ⟨c, u, -, hlist, -⟩ := exists_ofChar?_spelling s
    rw [hlist, List.length_cons]
    omega
  rcases s'.spelling_cases with ⟨d, -, hlist'⟩ | ⟨t, d, hd, ht, hlist'⟩
  · rw [hlist']
    exact hpos
  rcases s.spelling_cases with ⟨c, hc, hlist⟩ | ⟨_, c, -, -, hlist⟩
  · -- the longer symbol would need the `=` at which the shorter one does not stop
    rw [hlist, hlist', List.singleton_append] at h
    obtain ⟨rfl, u, rfl⟩ := List.cons_prefix_cons.mp h
    obtain rfl : t = s := Option.some.inj (hd.symm.trans hc)
    have hbreak := hr (ht ▸ Option.some_ne_none s')
    simp at hbreak
  · rw [hlist, hlist']
    exact le_rfl

/-- No lexeme at the head of a text goes on where the characters of the text's word break. -/
theorem length_le_of_mem_word (hw : w ∈ word) (hr : Breaks Character.continuesWord r)
    (hv : v ∈ lexical) (h : v <+: w ++ r) : v.length ≤ w.length := by
  obtain ⟨c, u, rfl, hc, hu⟩ := mem_word.mp hw
  rw [List.cons_append] at h
  obtain ⟨u', rfl, hu'⟩ := exists_cons_of_mem_lexical hv h
  obtain ⟨_, _, hlist, -, hall⟩ := mem_word.mp (mem_word_of_mem_lexical hc hv)
  obtain ⟨rfl, rfl⟩ := List.cons.inj hlist
  have hlen := length_le_takeWhile hall hu'
  rw [takeWhile_append_of_breaks hu hr] at hlen
  rw [List.length_cons, List.length_cons]
  omega

/-- The lexemes that are not in error are those of the grammar. -/
theorem IsLexeme.mem_lexical (h : IsLexeme k w) (hk : k ≠ .error) : w ∈ lexical := by
  rw [ScriptLexer.mem_lexical]
  cases h with
  | symbol s => exact Or.inl ⟨s, rfl⟩
  | keyword k => exact Or.inr (Or.inr (Or.inl (keyword_mem_word k)))
  | number hw => exact Or.inr (Or.inl hw)
  | identifier hw _ => exact Or.inr (Or.inr (Or.inl hw))
  | string hw => exact Or.inr (Or.inr (Or.inr hw))
  | stray _ => exact absurd rfl hk
  | openString _ => exact absurd rfl hk

/-- **Maximal munch.** A lexeme that stops is the longest prefix in any of the languages. -/
theorem IsLexeme.isLongestPrefix (h : IsLexeme k w) (hr : Stops k w r) (hk : k ≠ .error) :
    IsLongestPrefix lexical w (w ++ r) := by
  refine ⟨h.mem_lexical hk, List.prefix_append w r, fun v hv hpre => ?_⟩
  cases h with
  | symbol s =>
      obtain ⟨c, u, t, hlist, hc⟩ := exists_ofChar?_spelling s
      rw [hlist, List.cons_append] at hpre
      obtain ⟨u', rfl, hu'⟩ := exists_cons_of_mem_lexical hv hpre
      refine length_le_of_mem_spelled hr (mem_spelled_of_mem_lexical hc hv) ?_
      rwa [hlist, List.cons_append]
  | keyword k => exact length_le_of_mem_word (keyword_mem_word k) hr hv hpre
  | number hw =>
      obtain ⟨c, u, rfl, hc⟩ := exists_digit_of_mem_number hw
      obtain ⟨u', rfl, hu'⟩ := exists_cons_of_mem_lexical hv hpre
      have hlength := length_le_numberLength (mem_number_of_mem_lexical hc hv) hpre
      rwa [numberLength_append hw hr.1 hr.2] at hlength
  | identifier hw _ => exact length_le_of_mem_word hw hr hv hpre
  | string hw =>
      obtain ⟨body, hbody, rfl⟩ := mem_closedString.mp hw
      obtain ⟨u', rfl, hu'⟩ := exists_cons_of_mem_lexical hv hpre
      have hstring := mem_closedString_of_mem_lexical hv
      rw [closedString_prefix_unique hstring hw hpre (List.prefix_append _ r)]
  | stray _ => exact absurd rfl hk
  | openString _ => exact absurd rfl hk

/-! ### The kind of a lexeme -/

/-- A fixed name starts with a symbol's or a word's character. -/
theorem Kind.IsFixed.starts (hk : k.IsFixed) (hname : k.name.toList = c :: v) :
    (∃ s, Symbol.ofChar? c = some s) ∨ Character.startsWord c = true := by
  cases k with
  | symbol s =>
      obtain ⟨d, u, t, hlist, hd⟩ := exists_ofChar?_spelling s
      obtain ⟨rfl, -⟩ := List.cons.inj (hlist.symm.trans hname)
      exact Or.inl ⟨t, hd⟩
  | keyword k =>
      obtain ⟨d, u, hlist, hd, -⟩ := mem_word.mp (keyword_mem_word k)
      obtain ⟨rfl, -⟩ := List.cons.inj (hlist.symm.trans hname)
      exact Or.inr hd
  | string | number | identifier | eof | error => exact hk.elim

/-- The languages other than the spellings have no text in common. -/
theorem notMem_word_of_mem_number (hw : w ∈ number) : w ∉ word := by
  intro hword
  obtain ⟨c, v, rfl, hc⟩ := exists_digit_of_mem_number hw
  obtain ⟨_, _, hlist, hd, -⟩ := mem_word.mp hword
  rw [← (List.cons.inj hlist).1, startsWord_of_isDigit hc] at hd
  exact Bool.false_ne_true hd

/-- No closed string is a number. -/
theorem notMem_number_of_mem_closedString (hw : w ∈ closedString) : w ∉ number := by
  intro hnumber
  obtain ⟨c, v, rfl, hc⟩ := exists_digit_of_mem_number hnumber
  obtain ⟨body, -, hlist⟩ := mem_closedString.mp hw
  rw [(List.cons.inj hlist).1] at hc
  exact absurd hc (by decide)

/-- No closed string is a word. -/
theorem notMem_word_of_mem_closedString (hw : w ∈ closedString) : w ∉ word := by
  intro hword
  obtain ⟨c, v, rfl, hc, -⟩ := mem_word.mp hword
  obtain ⟨body, -, hlist⟩ := mem_closedString.mp hw
  rw [(List.cons.inj hlist).1] at hc
  exact absurd hc (by decide)

/-- A lexeme of the grammar is of one kind only. -/
theorem KindOf.unique {k₁ k₂ : Kind} (h₁ : KindOf w k₁) (h₂ : KindOf w k₂) : k₁ = k₂ := by
  cases h₁ with
  | fixed hk₁ hname₁ =>
      cases h₂ with
      | fixed hk₂ hname₂ =>
          exact Kind.name_injective (String.toList_injective (hname₁.trans hname₂.symm))
      | number hnone _ => exact absurd hname₁ (hnone _ hk₁)
      | identifier hnone _ => exact absurd hname₁ (hnone _ hk₁)
      | string hnone _ => exact absurd hname₁ (hnone _ hk₁)
  | number hnone hw =>
      cases h₂ with
      | fixed hk₂ hname₂ => exact absurd hname₂ (hnone _ hk₂)
      | number => rfl
      | identifier _ hw' => exact absurd hw' (notMem_word_of_mem_number hw)
      | string _ hw' => exact absurd hw (notMem_number_of_mem_closedString hw')
  | identifier hnone hw =>
      cases h₂ with
      | fixed hk₂ hname₂ => exact absurd hname₂ (hnone _ hk₂)
      | number _ hw' => exact absurd hw (notMem_word_of_mem_number hw')
      | identifier => rfl
      | string _ hw' => exact absurd hw (notMem_word_of_mem_closedString hw')
  | string hnone hw =>
      cases h₂ with
      | fixed hk₂ hname₂ => exact absurd hname₂ (hnone _ hk₂)
      | number _ hw' => exact absurd hw' (notMem_number_of_mem_closedString hw)
      | identifier _ hw' => exact absurd hw' (notMem_word_of_mem_closedString hw)
      | string => rfl

/-- A lexeme that is not in error is of the kind that its name or its language decides. -/
theorem IsLexeme.kindOf (h : IsLexeme k w) (hk : k ≠ .error) : KindOf w k := by
  cases h with
  | symbol s => exact .fixed trivial rfl
  | keyword k => exact .fixed trivial rfl
  | number hw =>
      refine .number (fun k hfixed hname => ?_) hw
      obtain ⟨c, v, rfl, hc⟩ := exists_digit_of_mem_number hw
      rcases hfixed.starts hname with ⟨s, hs⟩ | hd
      · exact absurd hc (Bool.eq_false_iff.mp (class_of_ofChar? hs).1)
      · exact absurd hd (Bool.eq_false_iff.mp (startsWord_of_isDigit hc))
  | identifier hw hnone =>
      refine .identifier (fun k hfixed hname => ?_) hw
      cases k with
      | symbol s =>
          obtain ⟨c, v, rfl, hc, -⟩ := mem_word.mp hw
          obtain ⟨d, u, t, hlist, hd⟩ := exists_ofChar?_spelling s
          obtain ⟨rfl, -⟩ := List.cons.inj (hlist.symm.trans hname)
          exact absurd hc (Bool.eq_false_iff.mp (class_of_ofChar? hd).2)
      | keyword k => exact hnone k hname
      | string | number | identifier | eof | error => exact hfixed.elim
  | string hw =>
      refine .string (fun k hfixed hname => ?_) hw
      obtain ⟨body, -, rfl⟩ := mem_closedString.mp hw
      rcases hfixed.starts hname with ⟨s, hs⟩ | hd
      · cases hs
      · exact absurd hd (by decide)
  | stray _ => exact absurd rfl hk
  | openString _ => exact absurd rfl hk

/-! ### One step -/

/-- A comment is the longest prefix of its text that has no line end in it. -/
theorem isLongestPrefix_comment (hw : '\n' ∉ w) (hr : EndsLine r) :
    IsLongestPrefix {v | '\n' ∉ v} ('#' :: w) ('#' :: w ++ r) := by
  have hmem : '\n' ∉ '#' :: w := List.not_mem_cons_of_ne_of_not_mem (by decide) hw
  refine ⟨hmem, List.prefix_append _ r, fun v hv hpre => ?_⟩
  have hlength := length_le_takeWhile (bne_of_notMem hv) hpre
  rwa [takeWhile_append_of_breaks (bne_of_notMem hmem) hr] at hlength

/-- A gap item is the next item of the text that it begins. -/
theorem nextItem_of_isGapItem (h : IsGapItem w r) : NextItem (w ++ r) none w := by
  cases h with
  | space hc => exact .space hc
  | comment hw hr => exact .comment (isLongestPrefix_comment hw hr)

/-- A lexeme that does not go on is the next item of the text that it begins. -/
theorem nextItem_of_isLexeme (h : IsLexeme k w) (hr : Stops k w r) :
    NextItem (w ++ r) (some k) w := by
  by_cases hk : k = .error
  · subst hk
    cases h with
    | stray hc =>
        refine .stray hc.not_gap hc.not_quote fun v hv hpre => ?_
        obtain ⟨u, rfl, -⟩ := exists_cons_of_mem_lexical hv hpre
        exact notMem_lexical_of_isStray hc hv
    | openString hw =>
        obtain ⟨hhead, hopen⟩ := hw
        obtain rfl : r = [] := hr hhead
        obtain ⟨v, rfl⟩ := List.head?_eq_some_iff.mp hhead
        rw [List.append_nil]
        refine .openString fun v hv hpre => ?_
        obtain ⟨u, rfl, -⟩ := exists_cons_of_mem_lexical hv hpre
        exact hopen _ (mem_closedString_of_mem_lexical hv) hpre
  · obtain ⟨c, v, hlist, hc⟩ := h.exists_cons
    have hlongest := h.isLongestPrefix hr hk
    rw [hlist, List.cons_append] at hlongest ⊢
    exact .lexeme hc hlongest (hlist ▸ h.kindOf hk)

/-- A text has at most one longest prefix in a language. -/
theorem IsLongestPrefix.unique {L : Language Char} {w₁ w₂ : List Char}
    (h₁ : IsLongestPrefix L w₁ text) (h₂ : IsLongestPrefix L w₂ text) : w₁ = w₂ :=
  (List.prefix_of_prefix_length_le h₁.starts h₂.starts
    (h₂.longest w₁ h₁.mem h₁.starts)).eq_of_length_le (h₁.longest w₂ h₂.mem h₂.starts)

/-- The specification leaves no choice. -/
theorem NextItem.unique {k₁ k₂ : Option Kind} {w₁ w₂ : List Char} (h₁ : NextItem text k₁ w₁)
    (h₂ : NextItem text k₂ w₂) : k₁ = k₂ ∧ w₁ = w₂ := by
  have hash_gap : StartsGap '#' := Or.inr rfl
  have hash_space : ¬ IsSpace '#' := by decide
  have hquote : ¬ IsSpace '"' := by decide
  cases h₁ with
  | space hc =>
      cases h₂ with
      | space => exact ⟨rfl, rfl⟩
      | comment => exact absurd hc hash_space
      | lexeme hc' => exact absurd (Or.inl hc) hc'
      | openString => exact absurd hc hquote
      | stray hc' => exact absurd (Or.inl hc) hc'
  | comment hw =>
      cases h₂ with
      | space hc => exact absurd hc hash_space
      | comment hw' => exact ⟨rfl, hw.unique hw'⟩
      | lexeme hc' => exact absurd hash_gap hc'
      | stray hc' => exact absurd hash_gap hc'
  | lexeme hc hw hk =>
      cases h₂ with
      | space hc' => exact absurd (Or.inl hc') hc
      | comment => exact absurd hash_gap hc
      | lexeme _ hw' hk' =>
          obtain rfl := hw.unique hw'
          exact ⟨congrArg some (hk.unique hk'), rfl⟩
      | openString hnone => exact absurd hw.starts (hnone _ hw.mem)
      | stray _ _ hnone => exact absurd hw.starts (hnone _ hw.mem)
  | openString hnone =>
      cases h₂ with
      | space hc => exact absurd hc hquote
      | lexeme _ hw => exact absurd hw.starts (hnone _ hw.mem)
      | openString => exact ⟨rfl, rfl⟩
      | stray _ hc => exact absurd rfl hc
  | stray hc hquote hnone =>
      cases h₂ with
      | space hc' => exact absurd (Or.inl hc') hc
      | comment => exact absurd hash_gap hc
      | lexeme _ hw => exact absurd hw.starts (hnone _ hw.mem)
      | openString => exact absurd rfl hquote
      | stray => exact ⟨rfl, rfl⟩

/-- What the specification reads is the item that the text begins with. -/
theorem NextItem.exists_rest {k : Option Kind} (h : NextItem text k w) :
    ∃ r, text = w ++ r ∧
      (k = none ∧ IsGapItem w r ∨ ∃ l, k = some l ∧ IsLexeme l w ∧ Stops l w r) := by
  cases text with
  | nil => cases h
  | cons c rest =>
      rcases exists_item c rest with ⟨w', r, htext, hw⟩ | ⟨l, w', r, htext, hw, hr⟩
      · have hitem := nextItem_of_isGapItem hw
        rw [← htext] at hitem
        obtain ⟨rfl, rfl⟩ := h.unique hitem
        exact ⟨r, htext, Or.inl ⟨rfl, hw⟩⟩
      · have hitem := nextItem_of_isLexeme hw hr
        rw [← htext] at hitem
        obtain ⟨rfl, rfl⟩ := h.unique hitem
        exact ⟨r, htext, Or.inr ⟨l, rfl, hw, hr⟩⟩

/-- What the specification skips is a gap item. -/
theorem nextItem_gap_iff : NextItem (w ++ r) none w ↔ IsGapItem w r := by
  refine ⟨fun h => ?_, nextItem_of_isGapItem⟩
  obtain ⟨r', htext, ⟨-, hw⟩ | ⟨l, hl, -⟩⟩ := h.exists_rest
  · rwa [List.append_cancel_left htext]
  · exact absurd hl.symm (Option.some_ne_none l)

/-- What the specification takes is a lexeme that stops. -/
theorem nextItem_lexeme_iff : NextItem (w ++ r) (some k) w ↔ IsLexeme k w ∧ Stops k w r := by
  refine ⟨fun h => ?_, fun h => nextItem_of_isLexeme h.1 h.2⟩
  obtain ⟨r', htext, ⟨hk, -⟩ | ⟨l, hl, hw, hr⟩⟩ := h.exists_rest
  · exact absurd hk (Option.some_ne_none k)
  · obtain rfl := Option.some.inj hl
    rw [List.append_cancel_left htext]
    exact ⟨hw, hr⟩

/-! ### The whole text -/

/-- The kinds and lexemes of tokens, the mark of the end left out. -/
def Token.contents (ts : List Token) : List (Kind × String) :=
  (ts.filter (·.kind ≠ .eof)).map fun t => (t.kind, t.lexeme)

/-- The contents of a token that is a lexeme come before those of the tokens behind it. -/
theorem Token.contents_lexeme (h : IsLexeme k w) (line : ℕ) (ts : List Token) :
    contents (⟨k, String.ofList w, line⟩ :: ts) = (k, String.ofList w) :: contents ts := by
  rw [contents, List.filter_cons_of_pos (by simpa using h.kind_ne_eof), List.map_cons, contents]

/-- What a scan yields is read item by item, the longest prefix at each. -/
theorem Scans.munches {line : ℕ} {ts : List Token} (h : Scans line text ts) :
    Munches text (Token.contents ts) := by
  induction h with
  | done => exact .done
  | gap hw _ ih => exact .skip (nextItem_of_isGapItem hw) ih
  | lexeme hw hr _ ih =>
      rw [Token.contents_lexeme hw]
      exact .take (nextItem_of_isLexeme hw hr) ih

/-- Reading by longest prefixes gives nothing but the contents of the scan. -/
theorem Munches.contents_eq {line : ℕ} {ts : List Token} {us : List (Kind × String)}
    (h : Munches text us) (hts : Scans line text ts) : us = Token.contents ts := by
  induction h generalizing line ts with
  | done =>
      obtain rfl := scans_nil.mp hts
      rfl
  | skip hitem _ ih => exact ih ((scans_gap (nextItem_gap_iff.mp hitem)).mp hts)
  | take hitem _ ih =>
      obtain ⟨hw, hr⟩ := nextItem_lexeme_iff.mp hitem
      obtain ⟨ts', rfl, hts'⟩ := (scans_lexeme hw hr).mp hts
      rw [Token.contents_lexeme hw, ih hts']

/-- **Longest match.** On every script the specification has exactly one solution: the kinds
and lexemes of the script's tokens. -/
theorem munches_iff (source : String) (us : List (Kind × String)) :
    Munches source.toList us ↔ us = Token.contents (tokenize source) := by
  have hscan := tokenize_eq_iff.mp (rfl : tokenize source = tokenize source)
  constructor
  · exact fun h => h.contents_eq hscan
  · rintro rfl
    exact hscan.munches

end ScriptLexer
