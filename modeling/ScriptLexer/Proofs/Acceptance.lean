import ScriptLexer.Proofs.Gap
import ScriptLexer.Proofs.LongestMatch

/-!
# Acceptance

A script is accepted if none of its tokens is in error. The scanner takes the longest lexeme at
every place, and might by that run into an error that shorter lexemes avoid. `IsCut pieces text`
is the freest way to cut a text: every piece is skipped or belongs to a language of the grammar,
and no piece has to be the longest.

Longest match does no harm because a lexeme that is not a string consists of *plain* characters,
each of which is a lexeme by itself. Where plain characters are cut is of no account, so cuts
may differ inside them, and agree on where every comment and every string starts.

## Main results

* `cuttable_plain_append_iff` — plain characters in front of a text neither help nor hinder a cut.
* `Scans.errorFree_iff` — a text that is scanned without error is a text that can be cut.
* `tokenize_errorFree_iff` — a script is accepted exactly if there is some cut of it.
-/

namespace ScriptLexer

open Grammar

/-- `IsCut pieces text`: the text is the pieces in a row, each of which is a gap item or belongs
to a language of the grammar. A comment is the only piece that what follows it has a say in. -/
inductive IsCut : List (List Char) → List Char → Prop
  | nil : IsCut [] []
  | gap {w r : List Char} {pieces : List (List Char)} :
      IsGapItem w r → IsCut pieces r → IsCut (w :: pieces) (w ++ r)
  | lexeme {w r : List Char} {pieces : List (List Char)} :
      w ∈ lexical → IsCut pieces r → IsCut (w :: pieces) (w ++ r)

/-- A text that can be cut. -/
def Cuttable (text : List Char) : Prop :=
  ∃ pieces, IsCut pieces text

/-- A character that is a lexeme by itself. -/
def IsPlain (c : Char) : Prop :=
  [c] ∈ lexical

variable {line : ℕ} {k : Kind} {c : Char} {u v w r text : List Char} {ts : List Token}

/-! ### Plain characters -/

/-- A character with a symbol is a lexeme. -/
theorem isPlain_of_ofChar? {s : Symbol} (hc : Symbol.ofChar? c = some s) : IsPlain c :=
  mem_lexical.mpr (Or.inl ⟨s, Symbol.spelling_of_ofChar? hc⟩)

/-- A digit is a number. -/
theorem isPlain_of_isDigit (hc : c.isDigit = true) : IsPlain c := by
  have hdigits : [c] ∈ digits := mem_digits.mpr ⟨List.cons_ne_nil c [], by simpa using hc⟩
  exact mem_lexical.mpr (Or.inr (Or.inl (mem_number.mpr (Or.inl hdigits))))

/-- A character that a word starts with is a word. -/
theorem isPlain_of_startsWord (hc : Character.startsWord c = true) : IsPlain c :=
  mem_lexical.mpr (Or.inr (Or.inr (Or.inl (mem_word.mpr ⟨c, [], rfl, hc, by simp⟩))))

/-- A character that a word goes on with is a lexeme: a word or a number. -/
theorem isPlain_of_continuesWord (hc : Character.continuesWord c = true) : IsPlain c := by
  rcases Bool.or_eq_true_iff.mp hc with h | h
  · exact isPlain_of_startsWord h
  · exact isPlain_of_isDigit h

/-- No lexeme of the grammar starts where a gap does. -/
theorem not_startsGap_of_mem_lexical (hv : c :: v ∈ lexical) : ¬ StartsGap c := by
  rcases lexical_cases hv with ⟨-, s, hs⟩ | ⟨-, hd⟩ | ⟨-, hw⟩ | ⟨-, rfl⟩
  · exact (not_startsGap (Or.inr (Or.inr (hs ▸ Option.some_ne_none s)))).1
  · exact (not_startsGap (Or.inl hd)).1
  · exact (not_startsGap (Or.inr (Or.inl hw))).1
  · decide

/-- A quote is not a lexeme by itself. -/
theorem IsPlain.ne_quote (hc : IsPlain c) : c ≠ '"' := by
  rintro rfl
  obtain ⟨body, -, hlist⟩ := mem_closedString.mp (mem_closedString_of_mem_lexical hc)
  simp at hlist

/-- A symbol of one or two characters is made of characters that are symbols themselves. -/
theorem isPlain_of_mem_spelled (hv : v ∈ spelled) : ∀ d ∈ v, IsPlain d := by
  obtain ⟨s, rfl⟩ := hv
  rcases s.spelling_cases with ⟨c, hc, hlist⟩ | ⟨t, c, hc, -, hlist⟩
  · rw [hlist]
    exact List.forall_mem_singleton.mpr (isPlain_of_ofChar? hc)
  · have hequals : IsPlain '=' := isPlain_of_ofChar? (s := .assign) rfl
    rw [hlist]
    exact List.forall_mem_cons.mpr ⟨isPlain_of_ofChar? hc, List.forall_mem_singleton.mpr hequals⟩

/-- Digits are lexemes one by one. -/
theorem isPlain_of_mem_digits (hv : v ∈ digits) : ∀ d ∈ v, IsPlain d :=
  fun d hd => isPlain_of_isDigit ((mem_digits.mp hv).2 d hd)

/-- A number is made of plain characters: its digits and its point. -/
theorem isPlain_of_mem_number (hv : v ∈ number) : ∀ d ∈ v, IsPlain d := by
  rcases mem_number.mp hv with hdigits | ⟨whole, hwhole, fraction, hfraction, rfl⟩
  · exact isPlain_of_mem_digits hdigits
  · have hpoint : IsPlain '.' := isPlain_of_ofChar? (s := .dot) rfl
    exact List.forall_mem_append.mpr ⟨isPlain_of_mem_digits hwhole,
      List.forall_mem_cons.mpr ⟨hpoint, isPlain_of_mem_digits hfraction⟩⟩

/-- A word is made of plain characters. -/
theorem isPlain_of_mem_word (hv : v ∈ word) : ∀ d ∈ v, IsPlain d := by
  obtain ⟨c, u, rfl, hc, hu⟩ := mem_word.mp hv
  refine List.forall_mem_cons.mpr ⟨isPlain_of_startsWord hc, fun d hd => ?_⟩
  exact isPlain_of_continuesWord (hu d hd)

/-- A lexeme of the grammar that is not a string consists of plain characters. -/
theorem isPlain_of_mem_lexical (hv : c :: v ∈ lexical) (hc : c ≠ '"') :
    ∀ d ∈ c :: v, IsPlain d := by
  rcases lexical_cases hv with ⟨h, -⟩ | ⟨h, -⟩ | ⟨h, -⟩ | ⟨-, h⟩
  · exact isPlain_of_mem_spelled h
  · exact isPlain_of_mem_number h
  · exact isPlain_of_mem_word h
  · exact absurd h hc

/-! ### The first piece of a cut -/

/-- The empty text is cut into no pieces. -/
theorem cuttable_nil : Cuttable [] :=
  ⟨[], .nil⟩

/-- A gap item may stand before a text that can be cut. -/
theorem Cuttable.append_gap (h : Cuttable r) (hw : IsGapItem w r) : Cuttable (w ++ r) := by
  obtain ⟨pieces, hcut⟩ := h
  exact ⟨w :: pieces, .gap hw hcut⟩

/-- A lexeme of the grammar may stand before a text that can be cut. -/
theorem Cuttable.append_lexeme (h : Cuttable r) (hw : w ∈ lexical) : Cuttable (w ++ r) := by
  obtain ⟨pieces, hcut⟩ := h
  exact ⟨w :: pieces, .lexeme hw hcut⟩

/-- A text that can be cut is empty or begins with a piece, behind which it can be cut. -/
theorem Cuttable.exists_piece (h : Cuttable text) :
    text = [] ∨ ∃ w r, text = w ++ r ∧ (IsGapItem w r ∨ w ∈ lexical) ∧ Cuttable r := by
  obtain ⟨pieces, hcut⟩ := h
  cases hcut with
  | nil => exact Or.inl rfl
  | gap hw hrest => exact Or.inr ⟨_, _, rfl, Or.inl hw, _, hrest⟩
  | lexeme hw hrest => exact Or.inr ⟨_, _, rfl, Or.inr hw, _, hrest⟩

/-- Where no gap starts, the first piece is a lexeme of the grammar. -/
theorem Cuttable.exists_lexeme (h : Cuttable (c :: r)) (hc : ¬ StartsGap c) :
    ∃ u r', r = u ++ r' ∧ c :: u ∈ lexical ∧ Cuttable r' := by
  obtain hnil | ⟨w, r', htext, hgap | hlexical, hrest⟩ := h.exists_piece
  · exact absurd hnil (List.cons_ne_nil c r)
  · obtain ⟨d, v, rfl, hd⟩ := hgap.exists_cons
    obtain ⟨rfl, -⟩ := List.cons.inj htext
    exact absurd hd hc
  · obtain ⟨u, rfl, -⟩ := exists_cons_of_mem_lexical hlexical (htext ▸ List.prefix_append w r')
    obtain ⟨-, rfl⟩ := List.cons.inj htext
    exact ⟨u, r', rfl, hlexical, hrest⟩

/-! ### Every cut passes what the scanner passes -/

/-- Every cut skips the gap item that the text begins with. -/
theorem cuttable_gap_iff (hw : IsGapItem w r) : Cuttable (w ++ r) ↔ Cuttable r := by
  refine ⟨fun h => ?_, fun h => h.append_gap hw⟩
  obtain hnil | ⟨w', r', htext, hgap | hlexical, hrest⟩ := h.exists_piece
  · exact absurd (List.append_eq_nil_iff.mp hnil).1 hw.ne_nil
  · obtain ⟨-, rfl⟩ := hw.unique hgap htext
    exact hrest
  · obtain ⟨c, v, rfl, hc⟩ := hw.exists_cons
    obtain ⟨u, rfl, -⟩ := exists_cons_of_mem_lexical hlexical (htext ▸ List.prefix_append w' r')
    exact absurd hc (not_startsGap_of_mem_lexical hlexical)

/-- Every cut has the string that the text begins with as a piece. -/
theorem cuttable_closedString_iff (hw : w ∈ closedString) : Cuttable (w ++ r) ↔ Cuttable r := by
  refine ⟨fun h => ?_, fun h => h.append_lexeme (mem_lexical.mpr (Or.inr (Or.inr (Or.inr hw))))⟩
  obtain ⟨body, -, rfl⟩ := mem_closedString.mp hw
  obtain ⟨u, r', htail, hu, hrest⟩ := h.exists_lexeme (by decide)
  have hstring := mem_closedString_of_mem_lexical hu
  have htext : '"' :: (body ++ ['"']) ++ r = '"' :: u ++ r' := congrArg ('"' :: ·) htail
  have hpiece : '"' :: u = '"' :: (body ++ ['"']) :=
    closedString_prefix_unique hstring hw (htext ▸ List.prefix_append _ r') (List.prefix_append _ r)
  rw [hpiece] at htext
  rwa [List.append_cancel_left htext]

/-- Plain characters may stand before a text that can be cut, each as a piece of its own. -/
theorem Cuttable.append_plain (h : Cuttable r) (hu : ∀ c ∈ u, IsPlain c) : Cuttable (u ++ r) := by
  induction u with
  | nil => exact h
  | cons c u ih =>
      rw [List.forall_mem_cons] at hu
      exact (ih hu.2).append_lexeme hu.1

/-- **Plain characters neither help nor hinder.** A piece that begins with a plain character is
plain throughout, so what a cut takes along behind the character can be cut anew. -/
theorem cuttable_plain_iff (hc : IsPlain c) : Cuttable (c :: r) ↔ Cuttable r := by
  refine ⟨fun h => ?_, fun h => h.append_lexeme hc⟩
  obtain ⟨u, r', rfl, hu, hrest⟩ := h.exists_lexeme (not_startsGap_of_mem_lexical hc)
  have hplain := isPlain_of_mem_lexical hu hc.ne_quote
  exact hrest.append_plain fun d hd => hplain d (List.mem_cons_of_mem c hd)

/-- Plain characters in front of a text do not matter for whether it can be cut. -/
theorem cuttable_plain_append_iff (hu : ∀ c ∈ u, IsPlain c) :
    Cuttable (u ++ r) ↔ Cuttable r := by
  induction u with
  | nil => rfl
  | cons c u ih =>
      rw [List.forall_mem_cons] at hu
      exact (cuttable_plain_iff hu.1).trans (ih hu.2)

/-! ### Acceptance -/

/-- A lexeme that is not in error neither helps nor hinders a cut. -/
theorem IsLexeme.cuttable_append_iff (h : IsLexeme k w) (hk : k ≠ .error) :
    Cuttable (w ++ r) ↔ Cuttable r := by
  obtain ⟨c, v, rfl, -⟩ := h.exists_cons
  have hlexical := h.mem_lexical hk
  by_cases hc : c = '"'
  · subst hc
    exact cuttable_closedString_iff (mem_closedString_of_mem_lexical hlexical)
  · exact cuttable_plain_append_iff (isPlain_of_mem_lexical hlexical hc)

/-- No cut gets past a stray character or a string that never closes. -/
theorem IsLexeme.not_cuttable_append (h : IsLexeme .error w) (hr : Stops .error w r) :
    ¬ Cuttable (w ++ r) := by
  intro hcut
  cases h with
  | stray hc =>
      obtain ⟨u, -, -, hu, -⟩ := hcut.exists_lexeme hc.not_gap
      exact notMem_lexical_of_isStray hc hu
  | openString hw =>
      obtain ⟨hhead, hopen⟩ := hw
      obtain rfl : r = [] := hr hhead
      obtain ⟨v, rfl⟩ := List.head?_eq_some_iff.mp hhead
      rw [List.append_nil] at hcut
      obtain ⟨u, r', rfl, hu, -⟩ := hcut.exists_lexeme (by decide)
      exact hopen _ (mem_closedString_of_mem_lexical hu) (List.prefix_append ('"' :: u) r')

/-- A text is scanned without error if and only if it can be cut: item by item, a cut exists
before what the scanner takes exactly if one exists behind it. -/
theorem Scans.errorFree_iff (h : Scans line text ts) :
    (∀ t ∈ ts, t.isError = false) ↔ Cuttable text := by
  induction h with
  | done => exact iff_of_true (List.forall_mem_singleton.mpr rfl) cuttable_nil
  | gap hw _ ih => exact ih.trans (cuttable_gap_iff hw).symm
  | @lexeme line k w r ts hw hr _ ih =>
      rw [List.forall_mem_cons]
      by_cases hk : k = .error
      · subst hk
        refine iff_of_false (fun hfree => ?_) (hw.not_cuttable_append hr)
        exact Bool.noConfusion hfree.1
      · rw [hw.cuttable_append_iff hk, ih]
        exact and_iff_right (beq_eq_false_iff_ne.mpr hk)

/-- **Acceptance.** No token of a script is in error if and only if there is some way to cut the
script into blanks, line ends, comments, symbols, numbers, words and closed strings. -/
theorem tokenize_errorFree_iff (source : String) :
    (∀ t ∈ tokenize source, t.isError = false) ↔ ∃ pieces, IsCut pieces source.toList :=
  (scans_tokenize source).errorFree_iff

end ScriptLexer
