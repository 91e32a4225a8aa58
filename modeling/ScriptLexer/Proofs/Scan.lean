import ScriptLexer.Proofs.Lexeme
import ScriptLexer.Session

/-!
# Scans

`Scans line text ts` is the scan of a text as a relation: standing on a line with `text` before
it, a scan yields the tokens `ts`. Its clauses are those of a text and nothing else: the end of
the text, a gap item, a lexeme that stops. Lines are counted here as well, by the line ends
among the characters that an item takes.

The session that cuts a script — cursor, budget of steps, tokens held, journal — is an
implementation of this relation, and the only one.

## Main results

* `Scans.unique` — a text has at most one scan.
* `tokenizeInto_scans` — whatever the journal shows, the tokens of a script are its scan.
* `tokenize_eq_iff` — the tokens of a script are exactly its scan.
-/

namespace ScriptLexer

/-- `Scans line text ts`: a scan that stands on line `line`, with `text` not read yet, yields
the tokens `ts`, the mark of the end included. -/
inductive Scans : ℕ → List Char → List Token → Prop
  | done {line : ℕ} : Scans line [] [.eof line]
  | gap {line : ℕ} {w r : List Char} {ts : List Token} :
      IsGapItem w r → Scans (line + w.count '\n') r ts → Scans line (w ++ r) ts
  | lexeme {line : ℕ} {k : Kind} {w r : List Char} {ts : List Token} :
      IsLexeme k w → Stops k w r → Scans (line + w.count '\n') r ts →
      Scans line (w ++ r) (⟨k, String.ofList w, line⟩ :: ts)

variable {line : ℕ} {k : Kind} {w r text : List Char} {ts us : List Token}

/-! ### Inversion -/

/-- A scan at the end of a text yields the mark of the end. -/
theorem scans_nil : Scans line [] ts ↔ ts = [.eof line] := by
  constructor
  · intro h
    generalize htext : ([] : List Char) = text at h
    cases h with
    | done => rfl
    | gap hw _ => exact absurd (List.append_eq_nil_iff.mp htext.symm).1 hw.ne_nil
    | lexeme hw _ _ => exact absurd (List.append_eq_nil_iff.mp htext.symm).1 hw.ne_nil
  · rintro rfl
    exact .done

/-- A gap item in front of a text only moves the lines of its tokens. -/
theorem scans_gap (hw : IsGapItem w r) :
    Scans line (w ++ r) ts ↔ Scans (line + w.count '\n') r ts := by
  refine ⟨fun h => ?_, .gap hw⟩
  generalize htext : w ++ r = text at h
  cases h with
  | done => exact absurd (List.append_eq_nil_iff.mp htext).1 hw.ne_nil
  | gap hw' h =>
      obtain ⟨rfl, rfl⟩ := hw.unique hw' htext
      exact h
  | lexeme hw' hr' _ => exact absurd htext (hw.append_ne hw' hr')

/-- A lexeme that does not go on is the first token, and the text behind it is scanned from the line
on which it ends. -/
theorem scans_lexeme (hw : IsLexeme k w) (hr : Stops k w r) :
    Scans line (w ++ r) ts ↔
      ∃ us, ts = ⟨k, String.ofList w, line⟩ :: us ∧ Scans (line + w.count '\n') r us := by
  constructor
  · intro h
    generalize htext : w ++ r = text at h
    cases h with
    | done => exact absurd (List.append_eq_nil_iff.mp htext).1 hw.ne_nil
    | gap hw' _ => exact absurd htext.symm (hw'.append_ne hw hr)
    | lexeme hw' hr' h =>
        obtain ⟨rfl, rfl, rfl⟩ := hw.unique hr hw' hr' htext
        exact ⟨_, rfl, h⟩
  · rintro ⟨us, rfl, h⟩
    exact .lexeme hw hr h

/-- A text has at most one scan. -/
theorem Scans.unique (h : Scans line text ts) (h' : Scans line text us) : ts = us := by
  induction h generalizing us with
  | done => exact (scans_nil.mp h').symm
  | gap hw _ ih => exact ih ((scans_gap hw).mp h')
  | lexeme hw hr _ ih =>
      obtain ⟨us', rfl, h''⟩ := (scans_lexeme hw hr).mp h'
      rw [ih h'']

/-! ### The cursor reads an item -/

namespace Cursor

variable {c : Cursor}

/-- In front of a gap item the cursor passes it and cuts no token. -/
theorem scan_of_gap (hw : IsGapItem w r) (hc : c.rest = w ++ r) :
    c.scan = (none, advanceBy w.length c.mark) := by
  obtain ⟨ch, rest, htext⟩ := exists_head hw.ne_nil r
  rw [scan, hc, ← htext]
  simp only [Item.first_of_isGapItem hw htext]

/-- In front of a lexeme that does not go on the cursor cuts it. -/
theorem scan_of_lexeme (hw : IsLexeme k w) (hr : Stops k w r) (hc : c.rest = w ++ r) :
    c.scan = (some ⟨k, String.ofList w, c.line⟩, advanceBy w.length c.mark) := by
  obtain ⟨ch, rest, htext⟩ := exists_head hw.ne_nil r
  rw [scan, hc, ← htext]
  simp only [Item.first_of_isLexeme hw hr htext, advanceBy_lexeme, hc, List.take_left]

/-- Behind an item the rest of the text is ahead. -/
theorem advanceBy_mark_rest (hc : c.rest = w ++ r) : (advanceBy w.length c.mark).rest = r := by
  rw [advanceBy_rest, mark_rest, hc, List.drop_left]

/-- Behind an item the line has grown by the line ends in it. -/
theorem advanceBy_mark_line (hc : c.rest = w ++ r) :
    (advanceBy w.length c.mark).line = c.line + w.count '\n' := by
  rw [advanceBy_line, mark_rest, mark_line, hc, List.take_left]

end Cursor

/-! ### The session carries the scan out -/

namespace Session

open Log (Journal)

/-- With characters left, a scan takes a step and goes on. -/
theorem drain_succ {s : Session} (hs : s.cursor.rest ≠ []) (n : ℕ) (log : Journal) :
    drain (n + 1) s log = drain n (s.step log).1 (s.step log).2 := by
  rw [drain]
  split
  · contradiction
  · rfl

/-- **A drained and closed session has scanned its rest**: it holds the tokens it held before
and behind them the scan of what its cursor had not read. The induction is on the steps that
are left, of which there are as many as characters. -/
theorem drain_scans (n : ℕ) (s : Session) (log : Journal) (hn : s.cursor.rest.length ≤ n) :
    ∃ ts, (drain n s log).1.close.tokens.toList = s.tokens.toList ++ ts ∧
      Scans s.cursor.line s.cursor.rest ts := by
  induction n generalizing s log with
  | zero =>
      have hs : s.cursor.rest = [] := List.length_eq_zero_iff.mp (by omega)
      exact ⟨[.eof s.cursor.line], by simp [drain, close], hs ▸ .done⟩
  | succ n ih =>
      by_cases hs : s.cursor.rest = []
      · refine ⟨[.eof s.cursor.line], ?_, hs ▸ .done⟩
        rw [drain, hs]
        simp [close]
      rw [drain_succ hs]
      have hlt := Cursor.scan_rest_length_lt hs
      rw [← step_cursor s log] at hlt
      obtain ⟨ts, htokens, hscan⟩ := ih (s.step log).1 (s.step log).2 (by omega)
      rw [step_cursor] at hscan
      obtain ⟨c, rest, hc⟩ := List.exists_cons_of_ne_nil hs
      rcases exists_item c rest with ⟨w, r, htext, hw⟩ | ⟨k, w, r, htext, hw, hr⟩
      · have hrest := hc.trans htext
        have hitem := Cursor.scan_of_gap hw hrest
        rw [hitem, Cursor.advanceBy_mark_rest hrest, Cursor.advanceBy_mark_line hrest] at hscan
        refine ⟨ts, ?_, hrest ▸ .gap hw hscan⟩
        rw [htokens, step, hitem]
      · have hrest := hc.trans htext
        have hitem := Cursor.scan_of_lexeme hw hr hrest
        rw [hitem, Cursor.advanceBy_mark_rest hrest, Cursor.advanceBy_mark_line hrest] at hscan
        refine ⟨⟨k, String.ofList w, s.cursor.line⟩ :: ts, ?_, hrest ▸ .lexeme hw hr hscan⟩
        rw [htokens, step, hitem]
        simp

end Session

open Log (Journal)

/-- Whatever the journal shows, the tokens of a script are its scan. -/
theorem tokenizeInto_scans (log : Journal) (source : String) :
    Scans 1 source.toList (tokenizeInto log source).1 := by
  obtain ⟨ts, htokens, hscan⟩ := Session.drain_scans source.toList.length (Session.start source)
    (log.note source.utf8ByteSize [.span source.utf8ByteSize, .enter]) le_rfl
  have hts : (tokenizeInto log source).1 = ts := htokens
  rw [hts]
  exact hscan

/-- The tokens of a script are what a scan of it from line 1 yields. -/
theorem scans_tokenize (source : String) : Scans 1 source.toList (tokenize source) :=
  tokenizeInto_scans .silent source

/-- The tokens of a script are exactly its scan. -/
theorem tokenize_eq_iff {source : String} : tokenize source = ts ↔ Scans 1 source.toList ts := by
  constructor
  · rintro rfl
    exact scans_tokenize source
  · exact (scans_tokenize source).unique

end ScriptLexer
