import ScriptLexer.Proofs.Gap

/-!
# Token Streams

Which lists of tokens are the tokens of some script. Necessary is that every token is a lexeme
of its kind, that lines do not decrease — and grow by the line ends inside strings — and that a
string which never closes ends the script. This is sufficient as well: no two lexemes get into
each other's way if a blank stands between them, so any such list is cut from a script that has
as many line ends between its lexemes as the lines ask for.

## Main results

* `Scans.wellFormed` — a scan yields a well-formed list.
* `WellFormed.exists_scans` — a well-formed list is the scan of a text.
* `exists_tokenize_eq_iff` — the well-formed lists are exactly the tokens of scripts.
-/

namespace ScriptLexer

namespace Token

/-- A token that is a string which never closes. -/
def OpensString (t : Token) : Prop :=
  t.kind = .error ∧ t.lexeme.toList.head? = some '"'

/-- The line on which the lexeme of a token ends. -/
def endLine (t : Token) : ℕ :=
  t.line + t.lexeme.toList.count '\n'

/-- A lexeme ends no earlier than it begins. -/
theorem line_le_endLine (t : Token) : t.line ≤ t.endLine :=
  Nat.le_add_right _ _

end Token

/-- `WellFormed least ts`: the tokens are lexemes of their kinds on lines from `least` on, the
mark of the end behind them. Each stands no earlier than the one before it ends. A string that
does not close comes last, and the script ends with it. -/
inductive WellFormed : ℕ → List Token → Prop
  | eof {least line : ℕ} : least ≤ line → WellFormed least [.eof line]
  | lexeme {least : ℕ} {t : Token} {ts : List Token} :
      IsLexeme t.kind t.lexeme.toList → ¬ t.OpensString → least ≤ t.line →
      WellFormed t.endLine ts → WellFormed least (t :: ts)
  | openString {least : ℕ} {t : Token} :
      t.kind = .error → IsOpenString t.lexeme.toList → least ≤ t.line →
      WellFormed least [t, .eof t.endLine]

variable {least line line' : ℕ} {w text : List Char} {ts : List Token}

/-! ### The tokens of a script are well formed -/

/-- A lexeme in error that begins with a quote is an open string. -/
theorem IsLexeme.isOpenString (h : IsLexeme .error w) (hw : w.head? = some '"') :
    IsOpenString w := by
  cases h with
  | stray hc => exact absurd (Option.some.inj hw) hc.not_quote
  | openString h => exact h

/-- The tokens of a scan are well formed from any line on that is not beyond its own. -/
theorem Scans.wellFormed (h : Scans line text ts) (hleast : least ≤ line) :
    WellFormed least ts := by
  induction h generalizing least with
  | done => exact .eof hleast
  | gap _ _ ih => exact ih (by omega)
  | @lexeme line k w r ts hw hr h ih =>
      have hend : Token.endLine ⟨k, String.ofList w, line⟩ = line + w.count '\n' := by
        rw [Token.endLine, String.toList_ofList]
      by_cases hopen : Token.OpensString ⟨k, String.ofList w, line⟩
      · obtain ⟨hk, hhead⟩ := hopen
        obtain rfl : k = .error := hk
        rw [String.toList_ofList] at hhead
        -- an open string takes all of the text, so nothing but the end is scanned behind it
        obtain rfl : r = [] := hr hhead
        rw [scans_nil.mp h, ← hend]
        refine .openString rfl ?_ hleast
        rw [String.toList_ofList]
        exact hw.isOpenString hhead
      · refine .lexeme ?_ hopen hleast (ih hend.le)
        rwa [String.toList_ofList]

/-- The tokens of a script are well formed from line 1 on. -/
theorem wellFormed_tokenize (source : String) : WellFormed 1 (tokenize source) :=
  (scans_tokenize source).wellFormed le_rfl

/-- In a well-formed list no line is below the least one. -/
theorem WellFormed.le_line (h : WellFormed least ts) : ∀ t ∈ ts, least ≤ t.line := by
  induction h with
  | eof hline => exact List.forall_mem_singleton.mpr hline
  | @lexeme least t ts _ _ hline _ ih =>
      refine List.forall_mem_cons.mpr ⟨hline, fun u hu => ?_⟩
      exact hline.trans (t.line_le_endLine.trans (ih u hu))
  | @openString least t _ _ hline =>
      have hend := hline.trans t.line_le_endLine
      exact List.forall_mem_cons.mpr ⟨hline, List.forall_mem_singleton.mpr hend⟩

/-- Lines never decrease in a well-formed list. -/
theorem WellFormed.pairwise_line (h : WellFormed least ts) :
    (ts.map Token.line).Pairwise (· ≤ ·) := by
  rw [List.pairwise_map]
  induction h with
  | eof => exact List.pairwise_singleton _ _
  | @lexeme least t ts _ _ _ hts ih =>
      refine List.pairwise_cons.mpr ⟨fun u hu => ?_, ih⟩
      exact t.line_le_endLine.trans (hts.le_line u hu)
  | @openString least t _ _ _ => exact List.pairwise_pair.mpr t.line_le_endLine

/-! ### Every well-formed list is the tokens of a script -/

/-- A blank and `n` line ends. -/
def padding (n : ℕ) : List Char :=
  ' ' :: List.replicate n '\n'

/-- Padding is a gap. -/
theorem isGap_padding (n : ℕ) : IsGap False (padding n) := by
  refine .space (Or.inl rfl) ?_
  induction n with
  | zero => exact .nil
  | succ n ih => exact .space (Or.inr (Or.inr (Or.inr rfl))) ih

/-- A gap begins where padding does. -/
theorem gapAhead_padding (n : ℕ) (text : List Char) : GapAhead (padding n ++ text) :=
  (isGap_padding n).gapAhead_append (List.cons_ne_nil _ _) text

/-- Padding moves a scan to a later line. -/
theorem Scans.padding (h : Scans line' text ts) (hline : line ≤ line') :
    Scans line (ScriptLexer.padding (line' - line) ++ text) ts := by
  have hcount : (ScriptLexer.padding (line' - line)).count '\n' = line' - line := by
    rw [ScriptLexer.padding, List.count_cons_of_ne (by decide), List.count_replicate_self]
  rw [scans_append_gap (isGap_padding _) False.elim, hcount, Nat.add_sub_of_le hline]
  exact h

/-- A well-formed list is the scan of a text that begins with a gap. With a gap in front of
every token, each lexeme stops before the text of those that follow. -/
theorem WellFormed.exists_scans (h : WellFormed least ts) (hleast : line ≤ least) :
    ∃ text, GapAhead text ∧ Scans line text ts := by
  induction h generalizing line with
  | @eof least line' hline =>
      refine ⟨padding (line' - line) ++ [], gapAhead_padding _ _, ?_⟩
      exact Scans.done.padding (hleast.trans hline)
  | @lexeme least t ts hw hopen hline _ ih =>
      obtain ⟨text, hgap, hscan⟩ := ih le_rfl
      refine ⟨padding (t.line - line) ++ (t.lexeme.toList ++ text), gapAhead_padding _ _, ?_⟩
      have hstops : Stops t.kind t.lexeme.toList text :=
        stops_of_gapAhead hgap fun hk hhead => absurd ⟨hk, hhead⟩ hopen
      have htoken := Scans.lexeme hw hstops hscan
      rw [String.ofList_toList] at htoken
      exact htoken.padding (hleast.trans hline)
  | @openString least t hk hw hline =>
      refine ⟨padding (t.line - line) ++ (t.lexeme.toList ++ []), gapAhead_padding _ _, ?_⟩
      have hdone : Scans t.endLine [] [.eof t.endLine] := .done
      have htoken := Scans.lexeme (.openString hw) (fun _ => rfl) hdone
      rw [String.ofList_toList, ← hk] at htoken
      exact htoken.padding (hleast.trans hline)

/-- **The image of the scanner.** The tokens of scripts are exactly the well-formed lists. -/
theorem exists_tokenize_eq_iff (ts : List Token) :
    (∃ source, tokenize source = ts) ↔ WellFormed 1 ts := by
  constructor
  · rintro ⟨source, hsource⟩
    exact (tokenize_eq_iff.mp hsource).wellFormed le_rfl
  · intro h
    obtain ⟨text, -, hscan⟩ := h.exists_scans le_rfl
    refine ⟨String.ofList text, tokenize_eq_iff.mpr ?_⟩
    rwa [String.toList_ofList]

end ScriptLexer
