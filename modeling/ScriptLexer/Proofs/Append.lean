import Mathlib.Data.List.DropRight
import ScriptLexer.Proofs.Layout

/-!
# Appended Text

What a scan makes of a text to which more text is appended. A lexeme is decided by its own
characters and at most two behind it, so the tokens of a text are those of the longer text as
well, up to its last ones. How far the appended text reaches back depends on how it begins: a
line end reaches nothing but a string that does not close, and other text the last token, or
the number before a point that now gets its fraction.

## Main results

* `Stops.append` — a lexeme that stops with two characters behind it stops in any longer text.
* `tokenize_append_line` — a script and another one on the next line are scanned separately.
* `tokenize_append_prefix` — text behind a script changes at most its last two tokens.
-/

namespace ScriptLexer

open Grammar

namespace Token

/-- The token in a script that has `n` lines more before it. -/
def later (n : ℕ) (t : Token) : Token :=
  { t with line := n + t.line }

instance : DecidablePred OpensString := fun t =>
  inferInstanceAs (Decidable (t.kind = .error ∧ t.lexeme.toList.head? = some '"'))

end Token

/-- Up to the mark of the end, the last two tokens are a number without a fraction and a point:
the one place where a character that follows makes a single token of two. -/
def EndsInPoint (ts : List Token) : Prop :=
  ∃ us t u mark, ts = us ++ [t, u, mark] ∧ t.kind = .number ∧ '.' ∉ t.lexeme.toList ∧
    u.kind = .symbol .dot

variable {line n : ℕ} {k : Kind} {p : Char → Bool} {w r s text : List Char}
  {t : Token} {ts us vs : List Token}

/-! ### Items in front of more text -/

/-- A text that breaks off a class still does with more text behind it, if what is added to an empty
one does. -/
theorem Grammar.Breaks.append (h : Breaks p r) (hr : r = [] → Breaks p s) :
    Breaks p (r ++ s) := by
  cases r with
  | nil => exact hr rfl
  | cons c r => exact breaks_cons.mpr (breaks_cons.mp h)

/-- A fraction that is completed by appended text has its point or more in it. -/
theorem Grammar.StartsFraction.of_append (h : StartsFraction (r ++ s)) (hr : r ≠ [])
    (hpoint : r ≠ ['.']) : StartsFraction r := by
  obtain ⟨d, v, htext, hd⟩ := h
  match r with
  | [_] =>
      obtain ⟨rfl, -⟩ := List.cons.inj htext
      exact absurd rfl hpoint
  | _ :: _ :: r =>
      obtain ⟨rfl, hrest⟩ := List.cons.inj htext
      obtain ⟨rfl, -⟩ := List.cons.inj hrest
      exact ⟨_, r, rfl, hd⟩

/-- A gap item stays one before longer text, if a line ends where the text was empty before. -/
theorem IsGapItem.append (h : IsGapItem w r) (hr : r = [] → EndsLine s) :
    IsGapItem w (r ++ s) := by
  cases h with
  | space hc => exact .space hc
  | comment hw hends => exact .comment hw (hends.append hr)

/-- A lexeme that stops before a text stops before the longer text, unless the text is empty or
a point behind a number without a fraction. -/
theorem Stops.append (h : Stops k w r) (hr : r ≠ [])
    (hpoint : k = .number → '.' ∉ w → r ≠ ['.']) (s : List Char) : Stops k w (r ++ s) := by
  cases k with
  | symbol _ => exact fun hlong => (h hlong).append fun hnil => absurd hnil hr
  | keyword _ | identifier => exact Breaks.append h fun hnil => absurd hnil hr
  | number =>
      refine ⟨h.1.append fun hnil => absurd hnil hr, fun hw hf => ?_⟩
      exact h.2 hw (hf.of_append hr (hpoint rfl hw))
  | error => exact fun hw => absurd (h hw) hr
  | string | eof => trivial

/-- A gap behind the text changes no lexeme in it but a string that does not close. -/
theorem Stops.append_gapAhead (h : Stops k w r) (hs : GapAhead s)
    (hopen : ¬ (k = .error ∧ w.head? = some '"')) : Stops k w (r ++ s) := by
  by_cases hr : r = []
  · subst hr
    exact stops_of_gapAhead hs fun hk hw => absurd ⟨hk, hw⟩ hopen
  by_cases hpoint : k = .number ∧ r = ['.']
  · obtain ⟨rfl, rfl⟩ := hpoint
    refine ⟨h.1.append fun hnil => absurd hnil hr, ?_⟩
    rintro - ⟨d, v, htext, hd⟩
    obtain ⟨-, rfl⟩ := List.cons.inj htext
    exact (not_startsGap (Or.inl hd)).1 (hs d rfl)
  · exact h.append hr (fun hk _ hdot => hpoint ⟨hk, hdot⟩) s

/-! ### Scans on other lines -/

/-- A scan counts lines from where it stands. -/
theorem Scans.later (h : Scans line text ts) (n : ℕ) :
    Scans (n + line) text (ts.map (Token.later n)) := by
  induction h with
  | done => exact .done
  | gap hw _ ih => exact .gap hw (Nat.add_assoc n _ _ ▸ ih)
  | lexeme hw hr _ ih => exact .lexeme hw hr (Nat.add_assoc n _ _ ▸ ih)

/-- The last token of a scan marks the end, on the line that the text ends on. -/
theorem Scans.getLast? (h : Scans line text ts) :
    ts.getLast? = some (.eof (line + text.count '\n')) := by
  obtain ⟨us, -, rfl, -⟩ := h.exists_layout
  exact List.getLast?_concat

/-- A scan yields at least the mark of the end. -/
theorem Scans.ne_nil (h : Scans line text ts) : ts ≠ [] := by
  rintro rfl
  cases h.getLast?

/-! ### A line end and more text -/

/-- **A scan goes on behind a finished line.** If the text does not end in an open string, what
follows in a longer text is scanned by itself, from the line on which the text ends. -/
theorem Scans.append (h : Scans line text ts)
    (hopen : ∀ t ∈ ts.dropLast.getLast?, ¬ t.OpensString) (hr : EndsLine r) (hgap : GapAhead r)
    (hscan : Scans (line + text.count '\n') r us) : Scans line (text ++ r) (ts.dropLast ++ us) := by
  induction h with
  | done => exact hscan
  | gap hw _ ih =>
      rw [List.count_append, ← Nat.add_assoc] at hscan
      rw [List.append_assoc]
      exact .gap (hw.append fun _ => hr) (ih hopen hscan)
  | @lexeme line k w r₀ ts hw hstops h ih =>
      rw [List.count_append, ← Nat.add_assoc] at hscan
      rw [List.dropLast_cons_of_ne_nil h.ne_nil] at hopen ⊢
      rw [List.append_assoc, List.cons_append]
      refine .lexeme hw (hstops.append_gapAhead hgap ?_) (ih (fun t ht => ?_) hscan)
      · rintro ⟨rfl, hhead⟩
        -- an open string takes all of the text, so it is the last token
        obtain rfl : r₀ = [] := hstops hhead
        obtain rfl := scans_nil.mp h
        refine hopen ⟨.error, String.ofList w, line⟩ rfl ⟨rfl, ?_⟩
        rwa [String.toList_ofList]
      · have hts : ts.dropLast ≠ [] := fun hnil => by rw [hnil] at ht; cases ht
        refine hopen t ?_
        rwa [List.getLast?_cons_of_ne_nil hts]

/-- **Line by line.** If a script does not end in an open string, the tokens of the script and
another one on the lines behind it are those of the two, the lines of the second counted on. -/
theorem tokenize_append_line (a b : String)
    (ha : ∀ t ∈ (tokenize a).dropLast.getLast?, ¬ t.OpensString) :
    ∃ line, (tokenize a).getLast? = some (.eof line) ∧
      tokenize (a ++ "\n" ++ b) =
        (tokenize a).dropLast ++ (tokenize b).map (Token.later line) := by
  have hscan := scans_tokenize a
  refine ⟨_, hscan.getLast?, tokenize_eq_iff.mpr ?_⟩
  have hbreak : IsGapItem ['\n'] b.toList := .space (by decide)
  have hbehind : Scans (1 + a.toList.count '\n') ('\n' :: b.toList)
      ((tokenize b).map (Token.later (1 + a.toList.count '\n'))) :=
    (scans_gap hbreak).mpr ((scans_tokenize b).later _)
  rw [String.toList_append, String.toList_append, List.append_assoc]
  exact hscan.append ha (by simp) (by simp [GapAhead, StartsGap, IsSpace]) hbehind

/-- A comment and a number's point are open at the end of a line; the next begins with a digit. -/
theorem tokenize_append_line_comment :
    (∀ t ∈ (tokenize "=3.#\"").dropLast.getLast?, ¬ t.OpensString) ∧
      tokenize "=3.#\"\n5\"" = [⟨.symbol .assign, "=", 1⟩, ⟨.number, "3", 1⟩,
        ⟨.symbol .dot, ".", 1⟩, ⟨.number, "5", 2⟩, ⟨.error, "\"", 2⟩, .eof 2] := by
  have hclosed : ∀ t ∈ (tokenize "=3.#\"").dropLast.getLast?, ¬ t.OpensString := by decide
  obtain ⟨line, hline, htokens⟩ := tokenize_append_line "=3.#\"" "5\"" hclosed
  obtain rfl : 1 = line := by
    rw [show tokenize "=3.#\"" = [⟨.symbol .assign, "=", 1⟩, ⟨.number, "3", 1⟩,
      ⟨.symbol .dot, ".", 1⟩, .eof 1] by decide] at hline
    exact congrArg Token.line (Option.some.inj hline)
  exact ⟨hclosed, htokens.trans (by decide)⟩

/-! ### Any more text -/

/-- Nothing is left of a list that is not longer than what is dropped. -/
theorem rdrop_prefix_of_length_le (h : ts.length ≤ n) (vs : List Token) : ts.rdrop n <+: vs := by
  rw [List.rdrop, Nat.sub_eq_zero_of_le h, List.take_zero]
  exact List.nil_prefix

/-- Behind a first token, what is left of a prefix when its end is dropped is a prefix still. -/
theorem rdrop_cons_prefix (h : ts.rdrop n <+: vs) (t : Token) : (t :: ts).rdrop n <+: t :: vs := by
  by_cases hn : n ≤ ts.length
  · rw [List.rdrop, List.length_cons, Nat.succ_sub hn, List.take_succ_cons]
    exact List.cons_prefix_cons.mpr ⟨rfl, h⟩
  · refine rdrop_prefix_of_length_le ?_ _
    rw [List.length_cons]
    omega

/-- Another token in front leaves a number and a point at the end. -/
theorem EndsInPoint.cons (h : EndsInPoint ts) (t : Token) : EndsInPoint (t :: ts) := by
  obtain ⟨us, u, v, mark, rfl, hu⟩ := h
  exact ⟨t :: us, u, v, mark, rfl, hu⟩

/-- The scan of a single point. -/
theorem scans_point (h : Scans line ['.'] ts) :
    ts = [⟨.symbol .dot, ".", line⟩, .eof line] := by
  have hstops : Stops (.symbol .dot) ['.'] [] := fun hlong => absurd rfl hlong
  obtain ⟨us, rfl, hus⟩ := (scans_lexeme (r := []) (.symbol .dot) hstops).mp h
  rw [scans_nil.mp hus]
  rfl

/-- **Appended text does not reach far.** The scan of a longer text begins with the tokens of the
shorter one, the mark of the end and the last token dropped, and one more behind a number whose
point is the last token. The induction is on the shorter scan: as long as a token has two more
behind it, the text behind it is long enough for its lexeme to stop in the longer text too. -/
theorem Scans.rdrop_prefix (h : Scans line text ts) (hn : 2 ≤ n)
    (hpoint : n = 2 → ¬ EndsInPoint ts) (hvs : Scans line (text ++ s) vs) :
    ts.rdrop n <+: vs := by
  induction h generalizing vs with
  | done => exact rdrop_prefix_of_length_le (Nat.le_of_succ_le hn) vs
  | @gap line w r ts hw h ih =>
      by_cases hr : r = []
      · subst hr
        rw [scans_nil.mp h]
        exact rdrop_prefix_of_length_le (Nat.le_of_succ_le hn) vs
      · rw [List.append_assoc] at hvs
        exact ih hpoint ((scans_gap (hw.append fun hnil => absurd hnil hr)).mp hvs)
  | @lexeme line k w r ts hw hstops h ih =>
      by_cases hr : r = []
      · subst hr
        rw [scans_nil.mp h]
        exact rdrop_prefix_of_length_le hn vs
      by_cases hdot : k = .number ∧ '.' ∉ w ∧ r = ['.']
      · obtain ⟨rfl, hw', rfl⟩ := hdot
        obtain rfl := scans_point h
        have hends : EndsInPoint [⟨.number, String.ofList w, line⟩,
            ⟨.symbol .dot, ".", line + w.count '\n'⟩, .eof (line + w.count '\n')] :=
          ⟨[], _, _, _, rfl, rfl, by rwa [String.toList_ofList], rfl⟩
        have hn' : 3 ≤ n := Nat.lt_of_le_of_ne hn fun h2 => hpoint h2.symm hends
        exact rdrop_prefix_of_length_le hn' vs
      · have hstops' := hstops.append hr (fun hk hw' hr' => hdot ⟨hk, hw', hr'⟩) s
        rw [List.append_assoc] at hvs
        obtain ⟨vs, rfl, hvs'⟩ := (scans_lexeme hw hstops').mp hvs
        exact rdrop_cons_prefix (ih (fun h2 hts => hpoint h2 (hts.cons _)) hvs') _

/-- **Prefix stability.** Whatever is appended to a script, its tokens up to the last two remain
as they are, and up to the last one unless they end in a number without a fraction and a point.
The mark of the end is dropped besides. -/
theorem tokenize_append_prefix (a b : String) :
    (tokenize a).rdrop 3 <+: tokenize (a ++ b) ∧
      (EndsInPoint (tokenize a) ∨ (tokenize a).rdrop 2 <+: tokenize (a ++ b)) := by
  have hscan := scans_tokenize a
  have hlong := scans_tokenize (a ++ b)
  rw [String.toList_append] at hlong
  refine ⟨hscan.rdrop_prefix (by omega) (by omega) hlong, ?_⟩
  rw [or_iff_not_imp_left]
  exact fun hpoint => hscan.rdrop_prefix le_rfl (fun _ => hpoint) hlong

/-- A digit behind a point reaches back over two tokens. -/
example : ¬ (tokenize "1.").rdrop 2 <+: tokenize ("1." ++ "5") := by
  decide

end ScriptLexer
