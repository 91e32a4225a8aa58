import ScriptLexer.Proofs.Scan

/-!
# Gaps

What stands between two lexemes: spaces, line ends and comments in any number and order. A
comment takes the rest of its line, so whether a text is a gap depends on what follows it.
`IsGap ends g` leaves just this open: `ends` says whether a line ends right behind `g`.

## Main results

* `scans_append_gap` — a scan passes a gap, whatever is in it, and counts its line ends.
* `IsGap.unique` — in front of a lexeme, a gap is determined by the text.
-/

namespace ScriptLexer

/-- `IsGap ends g`: the text `g` is a concatenation of spaces, line ends and comments. A comment
is followed by a line end in `g`, or by the end of `g` if `ends` says that a line ends there. -/
inductive IsGap (ends : Prop) : List Char → Prop
  | nil : IsGap ends []
  | space {c : Char} {g : List Char} : IsSpace c → IsGap ends g → IsGap ends (c :: g)
  | comment {w g : List Char} :
      '\n' ∉ w → IsGap ends ('\n' :: g) → IsGap ends ('#' :: w ++ '\n' :: g)
  | lastComment {w : List Char} : '\n' ∉ w → ends → IsGap ends ('#' :: w)

variable {line : ℕ} {ends ends' : Prop} {g g' r r' v : List Char} {ts : List Token}

/-! ### The items of a gap -/

/-- A gap item at the head of a text begins where a gap does. -/
theorem IsGapItem.exists_cons (h : IsGapItem v r) : ∃ c u, v = c :: u ∧ StartsGap c := by
  cases h with
  | space hc => exact ⟨_, [], rfl, Or.inl hc⟩
  | comment => exact ⟨'#', _, rfl, Or.inr rfl⟩

/-- A gap is empty or begins with a gap item, whatever text follows it. -/
theorem IsGap.exists_item (h : IsGap ends g) (hr : ends → EndsLine r) :
    g = [] ∨ ∃ v g', g = v ++ g' ∧ IsGapItem v (g' ++ r) ∧ IsGap ends g' := by
  cases h with
  | nil => exact Or.inl rfl
  | space hc h => exact Or.inr ⟨[_], _, rfl, .space hc, h⟩
  | comment hw h => exact Or.inr ⟨_, _, rfl, .comment hw (by simp), h⟩
  | lastComment hw hends =>
      exact Or.inr ⟨_, [], (List.append_nil _).symm, .comment hw (hr hends), .nil⟩

/-- A gap item in front of a gap makes a longer gap. -/
theorem IsGapItem.isGap_append (h : IsGapItem v (g ++ r)) (hg : IsGap ends g)
    (hends : EndsLine r → ends) : IsGap ends (v ++ g) := by
  cases h with
  | space hc => exact .space hc hg
  | comment hw hr =>
      cases g with
      | nil =>
          rw [List.append_nil]
          exact .lastComment hw (hends hr)
      | cons c g =>
          -- a comment goes up to the end of its line, so the gap behind it begins with that
          obtain rfl : c = '\n' := by simpa using hr
          exact .comment hw hg

/-- A gap with a character in it begins where a gap does, whatever follows it. -/
theorem IsGap.gapAhead_append (h : IsGap ends g) (hg : g ≠ []) (r : List Char) :
    GapAhead (g ++ r) := by
  cases h with
  | nil => exact absurd rfl hg
  | space hc _ => simpa [GapAhead, StartsGap] using Or.inl hc
  | comment => simp [GapAhead, StartsGap]
  | lastComment => simp [GapAhead, StartsGap]

/-- A gap is empty or begins where a gap does. -/
theorem IsGap.gapAhead (h : IsGap ends g) : GapAhead g := by
  by_cases hg : g = []
  · subst hg
    simp [GapAhead]
  · simpa using h.gapAhead_append hg []

/-- Where no gap begins, the only gap is the empty one. -/
theorem IsGap.eq_nil (h : IsGap ends g) (hstart : ∀ c ∈ (g ++ r).head?, ¬ StartsGap c) :
    g = [] := by
  by_contra hg
  obtain ⟨c, u, rfl⟩ := List.exists_cons_of_ne_nil hg
  exact hstart c rfl (h.gapAhead_append hg r c rfl)

/-! ### Gaps in a scan -/

/-- A scan passes a gap and counts its line ends. -/
theorem scans_append_gap (h : IsGap ends g) (hr : ends → EndsLine r) :
    Scans line (g ++ r) ts ↔ Scans (line + g.count '\n') r ts := by
  induction h generalizing line with
  | nil => rfl
  | @space c g hc _ ih =>
      have hitem : IsGapItem [c] (g ++ r) := .space hc
      rw [← List.singleton_append, List.append_assoc, scans_gap hitem, ih, List.count_append,
        Nat.add_assoc]
  | @comment w g hw _ ih =>
      have hitem : IsGapItem ('#' :: w) ('\n' :: g ++ r) := .comment hw (by simp)
      rw [List.append_assoc, scans_gap hitem, ih, List.count_append, Nat.add_assoc]
  | @lastComment w hw hends => exact scans_gap (.comment hw (hr hends))

/-! ### Only one gap fits -/

/-- Two gaps in front of lexemes that begin with the same item agree if they do behind it. -/
theorem IsGap.append_eq (hitem : IsGapItem v (g ++ r)) (h' : IsGap ends' g')
    (hr' : ends' → EndsLine r') (hstart' : ∀ c ∈ r'.head?, ¬ StartsGap c)
    (htext : v ++ (g ++ r) = g' ++ r')
    (ih : ∀ {g''}, IsGap ends' g'' → g ++ r = g'' ++ r' → g = g'') : v ++ g = g' := by
  rcases h'.exists_item hr' with rfl | ⟨v', g'', rfl, hitem', hg''⟩
  · obtain ⟨c, u, rfl, hc⟩ := hitem.exists_cons
    rw [List.nil_append] at htext
    subst htext
    exact absurd hc (hstart' c rfl)
  · rw [List.append_assoc] at htext
    obtain ⟨rfl, hrest⟩ := hitem.unique hitem' htext
    rw [ih hg'' hrest]

/-- **Only one gap fits** in front of a lexeme or at the end of a text. -/
theorem IsGap.unique (h : IsGap ends g) (h' : IsGap ends' g') (hr : ends → EndsLine r)
    (hr' : ends' → EndsLine r') (hstart : ∀ c ∈ r.head?, ¬ StartsGap c)
    (hstart' : ∀ c ∈ r'.head?, ¬ StartsGap c) (htext : g ++ r = g' ++ r') : g = g' := by
  induction h generalizing g' with
  | nil =>
      rw [List.nil_append] at htext
      exact (h'.eq_nil (htext ▸ hstart)).symm
  | @space c g hc _ ih =>
      have hitem : IsGapItem [c] (g ++ r) := .space hc
      exact append_eq hitem h' hr' hstart' htext ih
  | @comment w g hw _ ih =>
      have hitem : IsGapItem ('#' :: w) ('\n' :: g ++ r) := .comment hw (by simp)
      rw [List.append_assoc] at htext
      exact append_eq hitem h' hr' hstart' htext ih
  | @lastComment w hw hends =>
      have hitem : IsGapItem ('#' :: w) ([] ++ r) := .comment hw (hr hends)
      rw [← List.append_nil ('#' :: w)]
      refine append_eq hitem h' hr' hstart' htext fun hg'' hrest => ?_
      rw [List.nil_append] at hrest
      exact (hg''.eq_nil (hrest ▸ hstart)).symm

end ScriptLexer
