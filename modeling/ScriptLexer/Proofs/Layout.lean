import ScriptLexer.Proofs.Stream

/-!
# Layout

A script is its lexemes and the gaps around them. `Layout gs ws text` writes a text as gaps
`gs` and lexemes `ws` in turn, and `weave` puts gaps and lexemes together again.

Lines are counted once for all: the line of a token is the number of line ends before it, be
they in gaps, behind comments or inside earlier strings.

## Main results

* `Layout.unique` — a text has at most one layout along given lexemes.
* `tokenize_layout` — a script has exactly one layout along its tokens, and every token stands
  on the line that the text before it ends on.
-/

namespace ScriptLexer

/-- `Layout gs ws text`: the text is `g₀ w₁ g₁ … wₙ gₙ` with the gaps `gs` and lexemes `ws`.
Each comment in a gap is followed in the text by a line end, or by the end of the text. -/
inductive Layout : List String → List String → String → Prop
  | last {g : String} : IsGap True g.toList → Layout [g] [] g
  | cons {g w r : String} {gs ws : List String} :
      IsGap (EndsLine (w ++ r).toList) g.toList → Layout gs ws r →
      Layout (g :: gs) (w :: ws) (g ++ (w ++ r))

/-- The text `g₀ w₁ g₁ … wₙ gₙ` of gaps and lexemes in turn. -/
def weave : List String → List String → String
  | [], _ => ""
  | g :: _, [] => g
  | g :: gs, w :: ws => g ++ (w ++ weave gs ws)

/-- The text `g₀ w₁ g₁ … wᵢ gᵢ` in front of the lexeme `wᵢ₊₁`. -/
def textBefore (gs ws : List String) (i : ℕ) : String :=
  weave (gs.take (i + 1)) (ws.take i)

variable {line : ℕ} {gs gs' ws : List String} {s s' : String} {w r text : List Char}
  {t : Token} {ts us : List Token}

/-! ### Layouts of a text -/

/-- A layout is its gaps and lexemes in turn. -/
theorem Layout.weave_eq (h : Layout gs ws s) : weave gs ws = s := by
  induction h with
  | last => rfl
  | cons _ _ ih => rw [weave, ih]

/-- There is one gap more than there are lexemes. -/
theorem Layout.length_eq (h : Layout gs ws s) : gs.length = ws.length + 1 := by
  induction h with
  | last => rfl
  | cons _ _ ih => rw [List.length_cons, List.length_cons, ih]

/-- In front of the first lexeme there is the first gap. -/
theorem textBefore_zero (g w : String) (gs ws : List String) :
    textBefore (g :: gs) (w :: ws) 0 = g := rfl

/-- In front of any other lexeme there are the first gap, the first lexeme and what is in front of
it behind them. -/
theorem textBefore_succ (g w : String) (gs ws : List String) (i : ℕ) :
    textBefore (g :: gs) (w :: ws) (i + 1) = g ++ (w ++ textBefore gs ws i) := rfl

/-- The text before a lexeme, the lexeme, and what follows it make up the text. -/
theorem Layout.textBefore_append (h : Layout gs ws s) {i : ℕ} (hi : i < ws.length) :
    textBefore gs ws i ++ (ws[i] ++ weave (gs.drop (i + 1)) (ws.drop (i + 1))) = s := by
  induction h generalizing i with
  | last => exact absurd hi (Nat.not_lt_zero i)
  | @cons g w r gs ws _ hrest ih =>
      cases i with
      | zero =>
          rw [textBefore_zero, List.getElem_cons_zero]
          exact congrArg (fun r => g ++ (w ++ r)) hrest.weave_eq
      | succ i =>
          rw [textBefore_succ, List.getElem_cons_succ, String.append_assoc, String.append_assoc]
          exact congrArg (fun r => g ++ (w ++ r)) (ih (Nat.lt_of_succ_lt_succ hi))

/-- A text has at most one layout along lexemes that start where no gap does. -/
theorem Layout.unique (hws : ∀ w ∈ ws, ∃ c v, w.toList = c :: v ∧ ¬ StartsGap c)
    (h : Layout gs ws s) (h' : Layout gs' ws s') (htext : s = s') : gs = gs' := by
  induction h generalizing gs' s' with
  | last =>
      cases h' with
      | last => rw [htext]
  | @cons g w r gs ws hg _ ih =>
      cases h' with
      | @cons g' _ r' gs' _ hg' hrest' =>
          obtain ⟨c, v, hw, hc⟩ := hws w List.mem_cons_self
          have hstart : ∀ r : String, ∀ d ∈ (w ++ r).toList.head?, ¬ StartsGap d := by
            intro r d hd
            rw [String.toList_append, hw] at hd
            obtain rfl := Option.some.inj hd
            exact hc
          have hlist : g.toList ++ (w ++ r).toList = g'.toList ++ (w ++ r').toList := by
            rw [← String.toList_append, ← String.toList_append, htext]
          have hgap := hg.unique hg' id id (hstart r) (hstart r') hlist
          rw [hgap, List.append_cancel_left_eq, String.toList_append, String.toList_append,
            List.append_cancel_left_eq] at hlist
          rw [String.toList_injective hgap, ih (fun u hu => hws u (List.mem_cons_of_mem w hu))
            hrest' (String.toList_injective hlist)]

/-! ### Layouts and scans -/

/-- The token at the head of a scan whose lexeme the text begins with. -/
theorem Scans.head (h : Scans line (w ++ r) (t :: us)) (hw : t.lexeme.toList = w)
    (hlexeme : IsLexeme t.kind w) :
    t.line = line ∧ Stops t.kind w r ∧ Scans (line + w.count '\n') r us := by
  generalize htext : w ++ r = text at h
  generalize htokens : t :: us = ts at h
  cases h with
  | done => exact absurd (List.append_eq_nil_iff.mp htext).1 hlexeme.ne_nil
  | gap hw' _ =>
      obtain ⟨c, v, hlist, hc⟩ := hlexeme.exists_cons
      obtain ⟨d, u, rfl, hd⟩ := hw'.exists_cons
      rw [hlist] at htext
      obtain ⟨rfl, -⟩ := List.cons.inj htext
      exact absurd hd hc
  | lexeme hw' hr' h =>
      obtain ⟨rfl, rfl⟩ := List.cons.inj htokens
      rw [String.toList_ofList] at hw
      subst hw
      obtain rfl := List.append_cancel_left htext
      exact ⟨rfl, hr', h⟩

/-- A gap item in front of a text makes its first gap longer. -/
theorem Layout.exists_append (h : Layout gs ws s) (hw : IsGapItem w s.toList) :
    ∃ gs', Layout gs' ws (String.ofList w ++ s) := by
  cases h with
  | last hg =>
      refine ⟨[String.ofList w ++ s], .last ?_⟩
      rw [String.toList_append, String.toList_ofList]
      rw [← List.append_nil s.toList] at hw
      exact hw.isGap_append hg fun _ => trivial
  | @cons g w' r gs ws hg hrest =>
      refine ⟨(String.ofList w ++ g) :: gs, ?_⟩
      rw [← String.append_assoc]
      refine .cons ?_ hrest
      rw [String.toList_append (s := String.ofList w), String.toList_ofList]
      rw [String.toList_append] at hw
      exact hw.isGap_append hg id

/-- A scan lays its text out: lexemes and gaps, nothing lost and nothing twice. -/
theorem Scans.exists_layout (h : Scans line text ts) :
    ∃ us gs, ts = us ++ [.eof (line + text.count '\n')] ∧
      (∀ t ∈ us, IsLexeme t.kind t.lexeme.toList) ∧
      Layout gs (us.map Token.lexeme) (String.ofList text) := by
  induction h with
  | done => exact ⟨[], [""], rfl, by simp, .last .nil⟩
  | @gap line w r ts hw _ ih =>
      obtain ⟨us, gs, rfl, hus, hlayout⟩ := ih
      rw [← String.toList_ofList (l := r)] at hw
      obtain ⟨gs', hlayout'⟩ := hlayout.exists_append hw
      refine ⟨us, gs', ?_, hus, ?_⟩
      · rw [List.count_append, Nat.add_assoc]
      · rwa [String.ofList_append]
  | @lexeme line k w r ts hw _ _ ih =>
      obtain ⟨us, gs, rfl, hus, hlayout⟩ := ih
      refine ⟨⟨k, String.ofList w, line⟩ :: us, "" :: gs, ?_, ?_, ?_⟩
      · rw [List.count_append, Nat.add_assoc, List.cons_append]
      · rintro t ht
        rcases List.mem_cons.mp ht with rfl | ht
        · rwa [String.toList_ofList]
        · exact hus t ht
      · rw [String.ofList_append, ← String.empty_append (s := String.ofList w ++ _)]
        exact .cons .nil hlayout

/-- What a scan of a text with a first lexeme says about that lexeme's token. -/
theorem Layout.scans_cons (h : Layout gs ((t :: ts).map Token.lexeme) s)
    (hscan : Scans line s.toList (t :: us)) (hlexeme : IsLexeme t.kind t.lexeme.toList) :
    ∃ g gs' r, gs = g :: gs' ∧ s = g ++ (t.lexeme ++ r) ∧ Layout gs' (ts.map Token.lexeme) r ∧
      t.line = line + g.toList.count '\n' ∧ Stops t.kind t.lexeme.toList r.toList ∧
      Scans t.endLine r.toList us := by
  cases h with
  | @cons g _ r gs _ hg hrest =>
      rw [String.toList_append, scans_append_gap hg id, String.toList_append] at hscan
      obtain ⟨hline, hstops, hscan'⟩ := hscan.head rfl hlexeme
      rw [← hline] at hscan'
      exact ⟨g, gs, r, rfl, rfl, hrest, hline, hstops, hscan'⟩

/-- Every token stands on the line that the text before it ends on. -/
theorem Layout.line_eq (h : Layout gs (ts.map Token.lexeme) s)
    (hscan : Scans line s.toList (ts ++ us)) (hts : ∀ t ∈ ts, IsLexeme t.kind t.lexeme.toList)
    (i : ℕ) (hi : i < ts.length) :
    ts[i].line = line + (textBefore gs (ts.map Token.lexeme) i).toList.count '\n' := by
  induction ts generalizing gs s line i with
  | nil => exact absurd hi (Nat.not_lt_zero i)
  | cons t ts ih =>
      obtain ⟨g, gs', r, rfl, rfl, hrest, hline, -, hscan'⟩ :=
        h.scans_cons hscan (hts t List.mem_cons_self)
      cases i with
      | zero => exact hline
      | succ i =>
          have hrec := ih hrest hscan' (fun u hu => hts u (List.mem_cons_of_mem t hu)) i
            (Nat.lt_of_succ_lt_succ hi)
          rw [List.getElem_cons_succ, hrec, Token.endLine, hline, List.map_cons, textBefore_succ,
            String.toList_append, String.toList_append, List.count_append, List.count_append]
          omega

/-- **No loss, no duplication, exact lines.** A script has exactly one layout along its tokens,
the mark of the end apart. In it every lexeme follows the text before it, its token stands on
the line that this text ends on, and the end on the line that the whole script ends on. -/
theorem tokenize_layout (source : String) :
    ∃ ts line, tokenize source = ts ++ [.eof line] ∧
      (∀ t ∈ ts, t.kind ≠ .eof ∧ t.lexeme ≠ "") ∧
      (∃! gs, Layout gs (ts.map Token.lexeme) source) ∧
      (∀ gs, Layout gs (ts.map Token.lexeme) source → ∀ (i : ℕ) (hi : i < ts.length),
        (∃ rest, source = textBefore gs (ts.map Token.lexeme) i ++ (ts[i].lexeme ++ rest)) ∧
          ts[i].line = 1 + (textBefore gs (ts.map Token.lexeme) i).toList.count '\n') ∧
      line = 1 + source.toList.count '\n' ∧
      ((tokenize source).map Token.line).Pairwise (· ≤ ·) := by
  have hscan := tokenize_eq_iff.mp (rfl : tokenize source = tokenize source)
  obtain ⟨ts, gs, htokens, hts, hlayout⟩ := hscan.exists_layout
  rw [String.ofList_toList] at hlayout
  refine ⟨ts, _, htokens, fun t ht => ⟨(hts t ht).kind_ne_eof, fun hempty => ?_⟩,
    ⟨gs, hlayout, fun gs' hlayout' => ?_⟩, fun gs' hlayout' i hi => ?_, rfl,
    (hscan.wellFormed le_rfl).pairwise_line⟩
  · exact (hts t ht).ne_nil (by rw [hempty, String.toList_empty])
  · refine hlayout'.unique (fun w hw => ?_) hlayout rfl
    obtain ⟨t, ht, rfl⟩ := List.mem_map.mp hw
    exact (hts t ht).exists_cons
  · have hi' : i < (ts.map Token.lexeme).length := by rwa [List.length_map]
    have happend := hlayout'.textBefore_append hi'
    rw [List.getElem_map] at happend
    exact ⟨⟨_, happend.symm⟩, hlayout'.line_eq (htokens ▸ hscan) hts i hi⟩

end ScriptLexer
