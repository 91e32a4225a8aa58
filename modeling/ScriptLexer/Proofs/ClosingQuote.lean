import Mathlib.Algebra.Group.Nat.Even
import Mathlib.Data.List.DropRight
import Mathlib.Order.Bounds.Basic
import ScriptLexer.Proofs.Position
import ScriptLexer.Proofs.Scan

/-!
# Closing Quotes

A string is read from the left: a backslash takes the character after it along, and the first
quote that is not taken along closes the string. Seen from the right, a quote closes a string if
the run of backslashes directly before it, back to the opening quote at most, has an even length:
then the run is used up in pairs, and nothing takes the quote along. The first such quote is
where the string ends, whatever the pairs consist of, and without such a quote it never ends.

## Convention

Places are counted in characters from 0. Of the backslashes before a place only those behind the
opening quote count, so a run never reaches back across it.

## Main results

* `closes_escape` — a pair at the head of a text does not change which of its quotes close.
* `isLeast_of_closingLength?`, `not_closes_of_closingLength?` — reading from the left finds the
  first quote behind an even run.
* `exists_rest_of_reached` — a script's tokens are those held at any point of its scan, and the
  scan of what is left there.
* `string_at_quote` — where the string at a quote ends, and what comes of it.
-/

namespace ScriptLexer

/-- The number of backslashes directly before a place of a text. -/
def backslashesBefore (text : List Char) (k : ℕ) : ℕ :=
  ((text.take k).rtakeWhile (· = '\\')).length

/-- `Closes text k`: the text behind an opening quote has a quote at the place `k`, with an even
number of backslashes directly before it. -/
def Closes (text : List Char) (k : ℕ) : Prop :=
  text[k]? = some '"' ∧ Even (backslashesBefore text k)

/-- `ClosesAt text q c`: behind an opening quote at the place `q` of a text, the place `c` of the
text has a closing one. -/
def ClosesAt (text : List Char) (q c : ℕ) : Prop :=
  ∃ k, c = k + (q + 1) ∧ Closes (text.drop (q + 1)) k

variable {c : Char} {r text : List Char} {k : ℕ}

/-! ### Runs of backslashes -/

/-- The characters of a class at the end of a text reach its first one only if all are in the class.
-/
theorem rtakeWhile_cons (p : Char → Bool) (c : Char) (r : List Char) :
    (c :: r).rtakeWhile p = if (c :: r).all p then c :: r else r.rtakeWhile p := by
  rw [List.rtakeWhile, List.reverse_cons, List.takeWhile_append]
  by_cases hr : ∀ d ∈ r, p d = true
  · have hrun : r.reverse.takeWhile p = r.reverse :=
      List.takeWhile_eq_self_iff.mpr fun d hd => hr d (List.mem_reverse.mp hd)
    rw [hrun, if_pos rfl, List.all_cons, List.all_eq_true.mpr hr, Bool.and_true]
    by_cases hc : p c = true
    · rw [if_pos hc, List.takeWhile_cons_of_pos hc]
      simp
    · rw [if_neg hc, List.takeWhile_cons_of_neg hc, List.append_nil, List.rtakeWhile, hrun]
  · have hrun : ¬ (r.reverse.takeWhile p).length = r.reverse.length := fun hlen => hr fun d hd =>
      List.takeWhile_eq_self_iff.mp ((List.takeWhile_prefix p).eq_of_length hlen) d
        (List.mem_reverse.mpr hd)
    have hall : ¬ (c :: r).all p = true := fun hall =>
      hr fun d hd => List.all_eq_true.mp hall d (List.mem_cons_of_mem c hd)
    rw [if_neg hrun, if_neg hall, List.rtakeWhile]

/-- A character that is no backslash in front of a text is in no run. -/
theorem backslashesBefore_plain (hb : c ≠ '\\') (r : List Char) (k : ℕ) :
    backslashesBefore (c :: r) (k + 1) = backslashesBefore r k := by
  rw [backslashesBefore, List.take_succ_cons, rtakeWhile_cons, if_neg (by simp [hb]),
    backslashesBefore]

/-- A backslash and a character in front of a text are in no run, or two more in one. -/
theorem even_backslashesBefore_escape (c : Char) (r : List Char) (k : ℕ) :
    Even (backslashesBefore ('\\' :: c :: r) (k + 2)) ↔ Even (backslashesBefore r k) := by
  rw [backslashesBefore, List.take_succ_cons, List.take_succ_cons, backslashesBefore,
    rtakeWhile_cons, List.all_cons, decide_eq_true rfl, Bool.true_and]
  by_cases hall : (c :: r.take k).all (· = '\\') = true
  · have hself : (r.take k).rtakeWhile (· = '\\') = r.take k :=
      List.rtakeWhile_eq_self_iff.mpr fun d hd =>
        List.all_eq_true.mp hall d (List.mem_cons_of_mem c hd)
    rw [if_pos hall, hself, List.length_cons, List.length_cons, Nat.even_add_one,
      Nat.even_add_one, not_not]
  · rw [if_neg hall, rtakeWhile_cons, if_neg hall]

/-! ### Closing quotes from the left -/

/-- No quote closes a string in an empty text. -/
theorem not_closes_nil (k : ℕ) : ¬ Closes [] k := by
  rintro ⟨hquote, -⟩
  simp at hquote

/-- A quote right behind the opening one closes the string. -/
theorem closes_quote (r : List Char) : Closes ('"' :: r) 0 :=
  ⟨rfl, Even.zero⟩

/-- A lone backslash at the end of a text closes nothing. -/
theorem not_closes_backslash (k : ℕ) : ¬ Closes ['\\'] k := by
  rintro ⟨hquote, -⟩
  cases k <;> simp at hquote

/-- A quote that a backslash takes along does not close, and the pair does not change which
quotes behind it do. -/
theorem closes_escape (c : Char) (r : List Char) (k : ℕ) :
    Closes ('\\' :: c :: r) k ↔ ∃ j, k = j + 2 ∧ Closes r j := by
  match k with
  | 0 => simp [Closes]
  | 1 =>
      -- the backslash before the quote is a run of its own
      have hodd : backslashesBefore ('\\' :: c :: r) 1 = 1 := rfl
      simp [Closes, hodd]
  | k + 2 =>
      rw [Closes, even_backslashesBefore_escape]
      simp [Closes]

/-- Behind a character that is neither a quote nor a backslash, the same quotes close, one place
later. -/
theorem closes_plain (hq : c ≠ '"') (hb : c ≠ '\\') (r : List Char) (k : ℕ) :
    Closes (c :: r) k ↔ ∃ j, k = j + 1 ∧ Closes r j := by
  cases k with
  | zero => simp [Closes, hq]
  | succ k =>
      rw [Closes, backslashesBefore_plain hb]
      simp [Closes]

/-- The least of some numbers moves along with them. -/
theorem isLeast_shift {P Q : ℕ → Prop} {d m : ℕ} (hQ : ∀ k, Q k ↔ ∃ j, k = j + d ∧ P j) :
    IsLeast {k | Q k} (m + d) ↔ IsLeast {k | P k} m := by
  constructor
  · rintro ⟨hm, hle⟩
    obtain ⟨j, hj, hP⟩ := (hQ _).mp hm
    obtain rfl : m = j := by omega
    exact ⟨hP, fun i hi => Nat.le_of_add_le_add_right (hle ((hQ _).mpr ⟨i, rfl, hi⟩))⟩
  · rintro ⟨hm, hle⟩
    refine ⟨(hQ _).mpr ⟨m, rfl, hm⟩, fun k hk => ?_⟩
    obtain ⟨j, rfl, hj⟩ := (hQ k).mp hk
    exact Nat.add_le_add_right (hle hj) d

/-- Induction along a text as the characters of a string are read: up to a quote or the end, with
a backslash and the character after it as one step. -/
@[elab_as_elim]
theorem string_induction {motive : List Char → Prop} (nil : motive [])
    (quote : ∀ r, motive ('"' :: r)) (backslash : motive ['\\'])
    (escape : ∀ c r, motive r → motive ('\\' :: c :: r))
    (plain : ∀ c r, c ≠ '"' → c ≠ '\\' → motive r → motive (c :: r)) (text : List Char) :
    motive text := by
  induction text using closingLength?.induct with
  | case1 => exact nil
  | case2 r => exact quote r
  | case3 => exact backslash
  | case4 c r ih => exact escape c r ih
  | case5 c r hq hend hescape ih =>
      refine plain c r hq ?_ ih
      rintro rfl
      cases r with
      | nil => exact hend rfl rfl
      | cons d r => exact hescape d r rfl rfl

/-- **A string that closes, closes at the first quote behind an even run.** -/
theorem isLeast_of_closingLength? {n : ℕ} (h : closingLength? text = some n) :
    ∃ k, n = k + 1 ∧ IsLeast {k | Closes text k} k := by
  induction text using string_induction generalizing n with
  | nil | backslash => cases h
  | quote r =>
      cases h
      exact ⟨0, rfl, closes_quote r, fun k _ => Nat.zero_le k⟩
  | escape c r ih =>
      rw [Grammar.closingLength?_escape] at h
      obtain ⟨m, hm, rfl⟩ := Option.map_eq_some_iff.mp h
      obtain ⟨k, rfl, hk⟩ := ih hm
      exact ⟨k + 2, rfl, (isLeast_shift (closes_escape c r)).mpr hk⟩
  | plain c r hq hb ih =>
      rw [Grammar.closingLength?_plain hq hb] at h
      obtain ⟨m, hm, rfl⟩ := Option.map_eq_some_iff.mp h
      obtain ⟨k, rfl, hk⟩ := ih hm
      exact ⟨k + 1, rfl, (isLeast_shift (closes_plain hq hb r)).mpr hk⟩

/-- **A string that does not close has no quote behind an even run.** -/
theorem not_closes_of_closingLength? (h : closingLength? text = none) (k : ℕ) :
    ¬ Closes text k := by
  induction text using string_induction generalizing k with
  | nil => exact not_closes_nil k
  | quote r => cases h
  | backslash => exact not_closes_backslash k
  | escape c r ih =>
      rw [Grammar.closingLength?_escape, Option.map_eq_none_iff] at h
      rw [closes_escape]
      rintro ⟨j, -, hj⟩
      exact ih h j hj
  | plain c r hq hb ih =>
      rw [Grammar.closingLength?_plain hq hb, Option.map_eq_none_iff] at h
      rw [closes_plain hq hb]
      rintro ⟨j, -, hj⟩
      exact ih h j hj

/-! ### Strings and open strings -/

/-- A text whose first closing quote is at `k` begins with the string up to there. -/
theorem exists_closedString_of_isLeast (h : IsLeast {k | Closes text k} k) :
    ∃ r, '"' :: text = ('"' :: text).take (k + 2) ++ r ∧
      ('"' :: text).take (k + 2) ∈ Grammar.closedString := by
  cases hclosing : closingLength? text with
  | none => exact absurd h.1 (not_closes_of_closingLength? hclosing k)
  | some n =>
      obtain ⟨j, rfl, hj⟩ := isLeast_of_closingLength? hclosing
      obtain rfl : j = k := hj.unique h
      obtain ⟨v, hv, hpre, hlen⟩ := Grammar.closingLength?_eq_some_iff.mp hclosing
      rw [List.prefix_iff_eq_take.mp hpre, hlen] at hv
      exact ⟨_, (List.take_append_drop _ _).symm, hv⟩

/-- A text behind a quote in which nothing closes is an open string. -/
theorem isOpenString_of_not_closes (h : ∀ k, ¬ Closes text k) : IsOpenString ('"' :: text) := by
  refine ⟨rfl, fun v hv hpre => ?_⟩
  obtain ⟨n, hn⟩ : ∃ n, v.length = n + 1 := by
    obtain ⟨body, -, rfl⟩ := Grammar.mem_closedString.mp hv
    exact ⟨_, rfl⟩
  obtain ⟨k, -, hk⟩ := isLeast_of_closingLength?
    (Grammar.closingLength?_eq_some_iff.mpr ⟨v, hv, hpre, hn⟩)
  exact h k hk.1

/-! ### Points of a scan -/

namespace Session

open Log (Journal)

variable {source : String} {n q line : ℕ} {held : List Token}

/-- `Reaches source n q line held`: after `n` items of a scan of the script, the cursor stands
before the place `q`, on the line `line`, and the tokens `held` have been cut. -/
structure Reaches (source : String) (n q line : ℕ) (held : List Token) : Prop where
  le_length : q ≤ source.toList.length
  rest_eq : (reached source 0 n).cursor.rest = source.toList.drop q
  line_eq : (reached source 0 n).cursor.line = line
  tokens_eq : (reached source 0 n).tokens.toList = held

/-- Items are read one after the other. -/
theorem drain_add (m n : ℕ) (s : Session) (log : Journal) :
    drain (m + n) s log = drain n (drain m s log).1 (drain m s log).2 := by
  induction m generalizing s log with
  | zero => rw [Nat.zero_add, drain]
  | succ m ih =>
      by_cases hs : s.cursor.rest = []
      · rw [drain_of_rest_nil hs, drain_of_rest_nil hs, drain_of_rest_nil hs]
      · rw [Nat.add_right_comm, drain_succ hs, drain_succ hs, ih]

/-- Reading one item more is a step, unless the script has ended. -/
theorem reached_succ (source : String) (n : ℕ) :
    ∃ log, reached source 0 (n + 1) = (drain 1 (reached source 0 n) log).1 :=
  ⟨_, congrArg Prod.fst (drain_add n 1 (scans source 0) .silent)⟩

variable {s : Session} {k : Kind} {w r : List Char}

/-- A step over a gap item moves the cursor and holds nothing. -/
theorem step_of_gap (hw : IsGapItem w r) (hs : s.cursor.rest = w ++ r) (log : Journal) :
    (s.step log).1.cursor.rest = r ∧
      (s.step log).1.cursor.line = s.cursor.line + w.count '\n' ∧
      (s.step log).1.tokens.toList = s.tokens.toList := by
  rw [step, Cursor.scan_of_gap hw hs]
  exact ⟨Cursor.advanceBy_mark_rest hs, Cursor.advanceBy_mark_line hs, rfl⟩

/-- A step over a lexeme moves the cursor behind it and holds its token. -/
theorem step_of_lexeme (hw : IsLexeme k w) (hr : Stops k w r) (hs : s.cursor.rest = w ++ r)
    (log : Journal) :
    (s.step log).1.cursor.rest = r ∧
      (s.step log).1.cursor.line = s.cursor.line + w.count '\n' ∧
      (s.step log).1.tokens.toList =
        s.tokens.toList ++ [⟨k, String.ofList w, s.cursor.line⟩] := by
  rw [step, Cursor.scan_of_lexeme hw hr hs]
  exact ⟨Cursor.advanceBy_mark_rest hs, Cursor.advanceBy_mark_line hs, Array.toList_push⟩

/-- **A script's tokens** are those held at any point of its scan, and behind them the scan of
what is left there. The induction is on the items read so far. -/
theorem exists_rest_of_reached (source : String) (n : ℕ) :
    ∃ ts, tokenize source = (reached source 0 n).tokens.toList ++ ts ∧
      Scans (reached source 0 n).cursor.line (reached source 0 n).cursor.rest ts := by
  induction n with
  | zero => exact ⟨tokenize source, rfl, scans_tokenize source⟩
  | succ n ih =>
      obtain ⟨ts, htokens, hscan⟩ := ih
      obtain ⟨log, hnext⟩ := reached_succ source n
      rw [hnext]
      generalize reached source 0 n = s at htokens hscan
      by_cases hs : s.cursor.rest = []
      · rw [drain_of_rest_nil hs]
        exact ⟨ts, htokens, hscan⟩
      rw [drain_succ hs, drain]
      obtain ⟨c, rest, hc⟩ := List.exists_cons_of_ne_nil hs
      rcases exists_item c rest with ⟨w, r, htext, hw⟩ | ⟨k, w, r, htext, hw, hr⟩
      · obtain ⟨hrest, hline, hheld⟩ := step_of_gap hw (hc.trans htext) log
        rw [hc, htext, scans_gap hw] at hscan
        rw [hrest, hline, hheld]
        exact ⟨ts, htokens, hscan⟩
      · obtain ⟨hrest, hline, hheld⟩ := step_of_lexeme hw hr (hc.trans htext) log
        rw [hc, htext, scans_lexeme hw hr] at hscan
        obtain ⟨us, rfl, hscan⟩ := hscan
        rw [hrest, hline, hheld]
        exact ⟨us, by rw [htokens, List.append_assoc, List.singleton_append], hscan⟩

/-! ### The string at a quote -/

/-- A text from a quote on. -/
theorem drop_quote {text : List Char} (hq : text[q]? = some '"') :
    text.drop q = '"' :: text.drop (q + 1) := by
  obtain ⟨hlt, hget⟩ := List.getElem?_eq_some_iff.mp hq
  rw [List.drop_eq_getElem_cons hlt, hget]

/-- A closing quote is within the text. -/
theorem ClosesAt.lt_length {text : List Char} {c : ℕ} (h : ClosesAt text q c) :
    c < text.length := by
  obtain ⟨k, rfl, hquote, -⟩ := h
  rw [List.getElem?_drop, Nat.add_comm (q + 1) k] at hquote
  exact (List.getElem?_eq_some_iff.mp hquote).1

/-- A text from a quote on is the string up to the first closing quote, and what is behind. -/
theorem drop_eq_string_append {text : List Char} {c : ℕ} (hq : text[q]? = some '"')
    (hc : IsLeast {c | ClosesAt text q c} c) :
    text.drop q = text.extract q (c + 1) ++ text.drop (c + 1) ∧
      text.extract q (c + 1) ∈ Grammar.closedString := by
  obtain ⟨k, rfl, -⟩ := hc.1
  obtain ⟨r, hsplit, hstring⟩ := exists_closedString_of_isLeast
    ((isLeast_shift fun _ => Iff.rfl).mp hc)
  have hlen : k + (q + 1) + 1 - q = k + 2 := by omega
  have hdrop : text.drop (k + (q + 1) + 1) = (text.drop q).drop (k + 2) := by
    rw [List.drop_drop]
    congr 1
    omega
  rw [← drop_quote hq] at hstring
  rw [List.extract_eq_take_drop, hlen, hdrop, List.take_append_drop]
  exact ⟨rfl, hstring⟩

/-- **Where a string ends.** Let a scan of a script stand before a quote. If a quote behind it has
an even run of backslashes directly before it, counted from behind the first one, then the first
such quote ends a string: the string is cut, and the scan goes on behind it, as many lines further
as the string has line ends. If there is none, all that is left is one malformed lexeme, and the
script ends behind it. -/
theorem string_at_quote (h : Reaches source n q line held)
    (hq : source.toList[q]? = some '"') :
    (∀ c, IsLeast {c | ClosesAt source.toList q c} c →
      let lexeme := source.toList.extract q (c + 1)
      let cut := held ++ [⟨.string, String.ofList lexeme, line⟩]
      Reaches source (n + 1) (c + 1) (line + lexeme.count '\n') cut ∧ cut <+: tokenize source) ∧
    ((∀ c, ¬ ClosesAt source.toList q c) →
      let lexeme := source.toList.drop q
      tokenize source =
        held ++ [⟨.error, String.ofList lexeme, line⟩, .eof (line + lexeme.count '\n')]) := by
  constructor
  · intro c hc
    obtain ⟨hsplit, hstring⟩ := drop_eq_string_append hq hc
    have hs := h.rest_eq.trans hsplit
    obtain ⟨log, hnext⟩ := reached_succ source n
    have hrest : (reached source 0 n).cursor.rest ≠ [] := by
      rw [h.rest_eq, drop_quote hq]
      exact List.cons_ne_nil _ _
    rw [drain_succ hrest, drain] at hnext
    obtain ⟨hrest', hline', hheld'⟩ := step_of_lexeme (.string hstring) trivial hs log
    rw [← hnext] at hrest' hline' hheld'
    rw [h.line_eq] at hline' hheld'
    rw [h.tokens_eq] at hheld'
    refine ⟨⟨ClosesAt.lt_length hc.1, hrest', hline', hheld'⟩, ?_⟩
    obtain ⟨ts, htokens, -⟩ := exists_rest_of_reached source (n + 1)
    rw [htokens, hheld']
    exact List.prefix_append _ _
  · intro hnone
    have hopen : IsOpenString (source.toList.drop q) := by
      rw [drop_quote hq]
      exact isOpenString_of_not_closes fun k hk => hnone _ ⟨k, rfl, hk⟩
    obtain ⟨ts, htokens, hscan⟩ := exists_rest_of_reached source n
    rw [h.tokens_eq] at htokens
    rw [h.line_eq, h.rest_eq, ← List.append_nil (source.toList.drop q),
      scans_lexeme (.openString hopen) fun _ => rfl] at hscan
    obtain ⟨us, rfl, hscan⟩ := hscan
    rw [htokens, scans_nil.mp hscan]

/-- A string with a quote behind one backslash and one behind two, and a line end between them.
It touches an open string, whose only other quote is behind one backslash. -/
theorem string_at_quote_twice :
    Reaches "é\"\\\"\n\\\\\"\"\\\"" 2 8 2
        [⟨.error, "é", 1⟩, ⟨.string, "\"\\\"\n\\\\\"", 1⟩] ∧
      tokenize "é\"\\\"\n\\\\\"\"\\\"" =
        [⟨.error, "é", 1⟩, ⟨.string, "\"\\\"\n\\\\\"", 1⟩, ⟨.error, "\"\\\"", 2⟩, .eof 2] := by
  have hleast : IsLeast {c | ClosesAt "é\"\\\"\n\\\\\"\"\\\"".toList 1 c} 7 := by
    have hlength : closingLength? "\\\"\n\\\\\"\"\\\"".toList = some 6 := by decide
    obtain ⟨k, hk, hleast⟩ := isLeast_of_closingLength? hlength
    obtain rfl : 5 = k := by omega
    exact (isLeast_shift fun _ => Iff.rfl).mpr hleast
  have hstart : Reaches "é\"\\\"\n\\\\\"\"\\\"" 1 1 1 [⟨.error, "é", 1⟩] :=
    ⟨by decide, by decide, by decide, by decide⟩
  have hstring := ((string_at_quote hstart (by decide)).1 7 hleast).1
  have hnone : ∀ c, ¬ ClosesAt "é\"\\\"\n\\\\\"\"\\\"".toList 8 c := by
    rintro c ⟨k, -, hk⟩
    exact not_closes_of_closingLength? (by decide) k hk
  exact ⟨hstring, (string_at_quote hstring (by decide)).2 hnone⟩

end Session

end ScriptLexer
