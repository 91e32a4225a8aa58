import ScriptLexer.Proofs.Acceptance
import ScriptLexer.Proofs.ByteScan
import ScriptLexer.Proofs.ClosingQuote

/-!
# Exchanging Ordinary Characters

The scanner tells some characters apart: blanks and line ends, those that start a comment, a
string or an escape, the symbols, and the ASCII letters and digits with `_` and `@`. All others
are *ordinary*: controls, U+0000 among them, braces, `$`, and everything outside ASCII. An ordinary
character is a malformed lexeme by itself, and means nothing inside a comment or a string.

A map of characters `f` that keeps the characters told apart and takes ordinary ones to ordinary
ones can be applied before or after a scan. Nothing is asked of `f` besides: it need not be
injective, and a character and its image may have different sizes in UTF-8.

## Main results

* `Exchanges.closingLength?_map` — a string ends at the same place.
* `Exchanges.isLexeme_map`, `Exchanges.stops_map` — lexemes stay lexemes of their kind, and end
  where they did.
* `Exchanges.scans_map` — the scan of the new text is the scan of the old one, with new lexemes.
* `tokenize_map` — so for scripts, and for scans of them by byte offsets.
-/

namespace ScriptLexer

open Grammar

/-- The characters that are told apart by themselves and not by the class they belong to. -/
def toldApart : List Char :=
  [' ', '\r', '\t', '\n', '#', '"', '\\', '(', ')', ':', ',', '.', '-', '+', '/', '*', '!', '=',
    '<', '>', '@', '_']

/-- A character that is neither told apart by itself nor an ASCII digit or letter. -/
structure IsOrdinary (c : Char) : Prop where
  notMem : c ∉ toldApart
  not_digit : ¬ ('0' ≤ c ∧ c ≤ '9')
  not_upper : ¬ ('A' ≤ c ∧ c ≤ 'Z')
  not_lower : ¬ ('a' ≤ c ∧ c ≤ 'z')

instance : DecidablePred IsOrdinary := fun c =>
  decidable_of_iff
    (c ∉ toldApart ∧ ¬ ('0' ≤ c ∧ c ≤ '9') ∧ ¬ ('A' ≤ c ∧ c ≤ 'Z') ∧ ¬ ('a' ≤ c ∧ c ≤ 'z'))
    ⟨fun ⟨hmem, hdigit, hupper, hlower⟩ => ⟨hmem, hdigit, hupper, hlower⟩,
      fun hc => ⟨hc.notMem, hc.not_digit, hc.not_upper, hc.not_lower⟩⟩

/-- A map of characters that keeps the characters told apart, and takes ordinary characters to
ordinary ones. -/
structure Exchanges (f : Char → Char) : Prop where
  fixes : ∀ c, ¬ IsOrdinary c → f c = c
  isOrdinary : ∀ c, IsOrdinary c → IsOrdinary (f c)

/-- A token with the characters of its lexeme mapped. -/
def Token.mapLexeme (f : Char → Char) (t : Token) : Token :=
  { t with lexeme := t.lexeme.map f }

variable {c d : Char} {k : Kind} {w r text : List Char} {line : ℕ} {ts : List Token}

/-! ### Ordinary characters -/

namespace IsOrdinary

/-- An ordinary character is none that is told apart. -/
theorem ne (hc : IsOrdinary c) (hd : d ∈ toldApart) : c ≠ d := by
  rintro rfl
  exact hc.notMem hd

/-- No ordinary character is a digit. -/
theorem isDigit_eq (hc : IsOrdinary c) : c.isDigit = false :=
  Bool.eq_false_iff.mpr (mt isDigit_iff.mpr hc.not_digit)

/-- No word starts with an ordinary character. -/
theorem startsWord_eq (hc : IsOrdinary c) : Character.startsWord c = false := by
  refine Bool.eq_false_iff.mpr (mt startsWord_iff.mpr ?_)
  rintro (hupper | hlower | hunderscore | hat)
  · exact hc.not_upper hupper
  · exact hc.not_lower hlower
  · exact hc.ne (by decide) hunderscore
  · exact hc.ne (by decide) hat

/-- No word goes on with an ordinary character. -/
theorem continuesWord_eq (hc : IsOrdinary c) : Character.continuesWord c = false := by
  rw [Character.continuesWord, hc.startsWord_eq, hc.isDigit_eq, Bool.or_false]

/-- An ordinary character has no symbol. -/
theorem ofChar?_eq (hc : IsOrdinary c) : Symbol.ofChar? c = none := by
  rw [Option.eq_none_iff_forall_ne_some]
  intro s hs
  have hmem : c ∈ toldApart := by
    rw [Symbol.ofChar?.eq_def] at hs
    split at hs
    case h_14 => cases hs
    all_goals decide
  exact hc.notMem hmem

/-- No gap starts with an ordinary character. -/
theorem not_startsGap (hc : IsOrdinary c) : ¬ StartsGap c := by
  rintro ((rfl | rfl | rfl | rfl) | rfl) <;> exact hc.notMem (by decide)

/-- An ordinary character is a malformed lexeme by itself. -/
theorem isStray (hc : IsOrdinary c) : IsStray c where
  not_gap := hc.not_startsGap
  not_quote := hc.ne (by decide)
  not_symbol := ofChar?_eq_none_iff.mp hc.ofChar?_eq
  not_word := mt startsWord_iff.mp (Bool.eq_false_iff.mp hc.startsWord_eq)
  not_digit := hc.not_digit

end IsOrdinary

/-- A character that is told apart is not ordinary. -/
theorem not_isOrdinary_of_mem (hd : d ∈ toldApart) : ¬ IsOrdinary d :=
  fun h => h.notMem hd

/-- No character that is a lexeme of the grammar by itself is ordinary. -/
theorem IsPlain.not_isOrdinary (hc : IsPlain c) : ¬ IsOrdinary c := by
  intro h
  rcases lexical_cases hc with ⟨-, s, hs⟩ | ⟨-, hd⟩ | ⟨-, hw⟩ | ⟨-, rfl⟩
  · exact absurd (h.ofChar?_eq.symm.trans hs) (Option.some_ne_none s).symm
  · exact Bool.false_ne_true (h.isDigit_eq.symm.trans hd)
  · exact Bool.false_ne_true (h.startsWord_eq.symm.trans hw)
  · exact h.notMem (by decide)

/-- A text is a closed string if it closes with its last character. -/
theorem cons_mem_closedString_iff :
    '"' :: text ∈ closedString ↔ closingLength? text = some text.length := by
  constructor
  · intro hstring
    exact closingLength?_eq_some_iff.mpr ⟨_, hstring, List.prefix_rfl, rfl⟩
  · intro hclosing
    obtain ⟨v, hv, hpre, hlen⟩ := closingLength?_eq_some_iff.mp hclosing
    rwa [← hpre.eq_of_length hlen]

/-- A text is mapped character by character. -/
theorem map_eq_ofList (f : Char → Char) (s : String) :
    s.map f = String.ofList (s.toList.map f) := by
  apply String.toList_injective
  rw [String.toList_map, String.toList_ofList]

/-- To map the lexeme of a token is to map its characters. -/
theorem Token.mapLexeme_ofList (f : Char → Char) (k : Kind) (w : List Char) (line : ℕ) :
    Token.mapLexeme f ⟨k, String.ofList w, line⟩ = ⟨k, String.ofList (w.map f), line⟩ := by
  rw [Token.mapLexeme, map_eq_ofList, String.toList_ofList]

/-! ### What a map keeps -/

namespace Exchanges

variable {f : Char → Char} (h : Exchanges f)
include h

/-- A character that is told apart stays as it is. -/
theorem eq_of_mem (hd : d ∈ toldApart) : f d = d :=
  h.fixes d (not_isOrdinary_of_mem hd)

/-- Only a character that is told apart becomes one. -/
theorem eq_iff (hd : d ∈ toldApart) : f c = d ↔ c = d := by
  by_cases hc : IsOrdinary c
  · exact iff_of_false ((h.isOrdinary c hc).ne hd) (hc.ne hd)
  · rw [h.fixes c hc]

/-- A class without ordinary characters is kept. -/
theorem class_eq {p : Char → Bool} (hp : ∀ c, IsOrdinary c → p c = false) (c : Char) :
    p (f c) = p c := by
  by_cases hc : IsOrdinary c
  · rw [hp c hc, hp _ (h.isOrdinary c hc)]
  · rw [h.fixes c hc]

/-- A text of plain characters stays as it is. -/
theorem map_eq_self (hw : ∀ c ∈ w, IsPlain c) : w.map f = w := by
  have hfixed : ∀ c ∈ w, f c = id c := fun c hc => h.fixes c (hw c hc).not_isOrdinary
  rw [List.map_congr_left hfixed, List.map_id]

/-- A character that is told apart is in the mapped text exactly if it is in the text. -/
theorem mem_map_iff (hd : d ∈ toldApart) : d ∈ w.map f ↔ d ∈ w := by
  simp only [List.mem_map, h.eq_iff hd, exists_eq_right]

/-- A character that is told apart comes first in the mapped text exactly if it does in the text. -/
theorem head?_map_eq_iff (hd : d ∈ toldApart) : (w.map f).head? = some d ↔ w.head? = some d := by
  simp only [List.head?_map, Option.map_eq_some_iff, h.eq_iff hd, exists_eq_right]

/-- A character that is told apart is as frequent in the mapped text as in the text. -/
theorem count_map (hd : d ∈ toldApart) (w : List Char) : (w.map f).count d = w.count d := by
  rw [List.count_eq_countP, List.count_eq_countP, List.countP_map]
  refine List.countP_congr fun c _ => ?_
  rw [Function.comp_apply, beq_iff_eq, beq_iff_eq, h.eq_iff hd]

/-- A class without ordinary characters is broken off by the mapped text if it is by the text. -/
theorem breaks_map {p : Char → Bool} (hp : ∀ c, IsOrdinary c → p c = false)
    (hr : Breaks p r) : Breaks p (r.map f) := by
  cases r with
  | nil => exact hr
  | cons c r => rwa [List.map_cons, breaks_cons, h.class_eq hp, ← breaks_cons (r := r)]

/-- A line ends where it did. -/
theorem endsLine_map (hr : EndsLine r) : EndsLine (r.map f) := by
  cases r with
  | nil => exact hr
  | cons c r =>
      rw [EndsLine, breaks_cons, bne_eq_false_iff_eq] at hr
      rw [EndsLine, List.map_cons, breaks_cons, bne_eq_false_iff_eq, h.eq_iff (by decide), hr]

/-- A fraction begins in the mapped text only if one does in the text. -/
theorem startsFraction_map (hr : StartsFraction (r.map f)) : StartsFraction r := by
  obtain ⟨d, v, hlist, hd⟩ := hr
  match r with
  | [] | [_] => simp at hlist
  | c :: e :: r =>
      simp only [List.map_cons, List.cons.injEq] at hlist
      obtain ⟨hc, rfl, -⟩ := hlist
      rw [h.class_eq fun _ => IsOrdinary.isDigit_eq] at hd
      exact ⟨e, r, by rw [(h.eq_iff (by decide)).mp hc], hd⟩

/-! ### Strings -/

/-- **A string ends at the same place**, whatever the characters in it are exchanged for. -/
theorem closingLength?_map (text : List Char) :
    closingLength? (text.map f) = closingLength? text := by
  have hquote : f '"' = '"' := h.eq_of_mem (by decide)
  have hbackslash : f '\\' = '\\' := h.eq_of_mem (by decide)
  induction text using string_induction with
  | nil => rfl
  | quote r => rw [List.map_cons, hquote, closingLength?_quote, closingLength?_quote]
  | backslash => rw [List.map_singleton, hbackslash]
  | escape c r ih =>
      rw [List.map_cons, List.map_cons, hbackslash, closingLength?_escape, closingLength?_escape,
        ih]
  | plain c r hq hb ih =>
      rw [List.map_cons, closingLength?_plain (mt (h.eq_iff (by decide)).mp hq)
        (mt (h.eq_iff (by decide)).mp hb), closingLength?_plain hq hb, ih]

/-- The mapped text is a closed string exactly if the text is one. -/
theorem closedString_map : w.map f ∈ closedString ↔ w ∈ closedString := by
  cases w with
  | nil => rfl
  | cons c w =>
      rw [List.map_cons]
      by_cases hc : c = '"'
      · subst hc
        rw [h.eq_of_mem (by decide), cons_mem_closedString_iff, cons_mem_closedString_iff,
          h.closingLength?_map, List.length_map]
      · refine iff_of_false (fun hmem => ?_) (fun hmem => ?_)
        · obtain ⟨body, -, hlist⟩ := mem_closedString.mp hmem
          exact hc ((h.eq_iff (by decide)).mp (List.cons.inj hlist).1)
        · obtain ⟨body, -, hlist⟩ := mem_closedString.mp hmem
          exact hc (List.cons.inj hlist).1

/-- A string that does not close stays one. -/
theorem isOpenString_map (hw : IsOpenString w) : IsOpenString (w.map f) := by
  refine ⟨(h.head?_map_eq_iff (by decide)).mpr hw.1, fun v hv hpre => ?_⟩
  rw [List.prefix_iff_eq_take.mp hpre, ← List.map_take, h.closedString_map] at hv
  exact hw.2 _ hv (List.take_prefix _ w)

/-! ### Items -/

/-- A stray character stays one. -/
theorem isStray_map (hc : IsStray c) : IsStray (f c) := by
  by_cases hordinary : IsOrdinary c
  · exact (h.isOrdinary c hordinary).isStray
  · rwa [h.fixes c hordinary]

/-- A gap item stays one, before the mapped rest of the text. -/
theorem isGapItem_map (hw : IsGapItem w r) : IsGapItem (w.map f) (r.map f) := by
  cases hw with
  | @space c _ hc =>
      rw [List.map_singleton, h.fixes c fun hordinary => hordinary.not_startsGap (Or.inl hc)]
      exact .space hc
  | comment hw hr =>
      rw [List.map_cons, h.eq_of_mem (by decide)]
      exact .comment (mt (h.mem_map_iff (by decide)).mp hw) (h.endsLine_map hr)

/-- Lexemes stay lexemes of their kind. -/
theorem isLexeme_map (hw : IsLexeme k w) : IsLexeme k (w.map f) := by
  cases hw with
  | symbol s => rw [h.map_eq_self (isPlain_of_mem_spelled ⟨s, rfl⟩)]; exact .symbol s
  | keyword k => rw [h.map_eq_self (isPlain_of_mem_word (keyword_mem_word k))]; exact .keyword k
  | number hw => rw [h.map_eq_self (isPlain_of_mem_number hw)]; exact .number hw
  | identifier hw hk => rw [h.map_eq_self (isPlain_of_mem_word hw)]; exact .identifier hw hk
  | string hw => exact .string (h.closedString_map.mpr hw)
  | stray hc => exact .stray (h.isStray_map hc)
  | openString hw => exact .openString (h.isOpenString_map hw)

/-- A lexeme ends where it did. -/
theorem stops_map (hr : Stops k w r) : Stops k (w.map f) (r.map f) := by
  cases k with
  | symbol s =>
      exact fun hs => h.breaks_map (fun c hc => beq_false_of_ne (hc.ne (by decide))) (hr hs)
  | keyword | identifier => exact h.breaks_map (fun _ => IsOrdinary.continuesWord_eq) hr
  | number =>
      refine ⟨h.breaks_map (fun _ => IsOrdinary.isDigit_eq) hr.1, fun hpoint hfraction => ?_⟩
      exact hr.2 (mt (h.mem_map_iff (by decide)).mpr hpoint) (h.startsFraction_map hfraction)
  | error =>
      intro hquote
      rw [hr ((h.head?_map_eq_iff (by decide)).mp hquote), List.map_nil]
  | string | eof => trivial

/-! ### Scans -/

/-- **The scan of the new text** is the scan of the old one, with new lexemes. -/
theorem scans_map (hscan : Scans line text ts) :
    Scans line (text.map f) (ts.map (Token.mapLexeme f)) := by
  induction hscan with
  | @done line =>
      rw [List.map_singleton, Token.eof, ← String.ofList_nil, Token.mapLexeme_ofList]
      exact .done
  | gap hw _ ih =>
      rw [← h.count_map (by decide)] at ih
      rw [List.map_append]
      exact .gap (h.isGapItem_map hw) ih
  | @lexeme line k w r ts hw hr _ ih =>
      rw [← h.count_map (by decide)] at ih
      rw [List.map_append, List.map_cons, Token.mapLexeme_ofList]
      exact .lexeme (h.isLexeme_map hw) (h.stops_map hr) ih

end Exchanges

/-- The tokens of a script are what a scan by byte offsets holds at its end. -/
theorem tokens_scans? {bits : ℕ} {source : String} (hroom : source.utf8ByteSize + 1 < 2 ^ bits) :
    (ByteScan.scans? bits source 1).map (·.2.toList) = some (tokenize source) := by
  rw [ByteScan.scans?_eq hroom, Session.scans_succ]
  rfl

/-- **Ordinary characters are interchangeable.** A map that keeps the characters told apart and
takes ordinary ones to ordinary ones changes nothing about the tokens of a script but the
characters of their lexemes. This is so as well for a scan by byte offsets, whose numbers differ
and whose sentinel may be one of the characters exchanged. -/
theorem tokenize_map {f : Char → Char} (h : Exchanges f) (source : String) :
    tokenize (source.map f) = (tokenize source).map (Token.mapLexeme f) ∧
      ∀ bits, source.utf8ByteSize + 1 < 2 ^ bits → (source.map f).utf8ByteSize + 1 < 2 ^ bits →
        (ByteScan.scans? bits (source.map f) 1).map (·.2.toList) =
          (ByteScan.scans? bits source 1).map fun s => s.2.toList.map (Token.mapLexeme f) := by
  have htokens : tokenize (source.map f) = (tokenize source).map (Token.mapLexeme f) := by
    rw [tokenize_eq_iff, String.toList_map]
    exact h.scans_map (scans_tokenize source)
  refine ⟨htokens, fun bits hroom hroom' => ?_⟩
  rw [tokens_scans? hroom', htokens, ← Option.map_some, ← tokens_scans? hroom, Option.map_map]
  rfl

/-- Puts a character of four bytes for U+0000, and U+0000 for one of three bytes. -/
def castSentinel (c : Char) : Char :=
  if c = '\x00' then '𝄞' else if c = '中' then '\x00' else c

/-- The exchange of U+0000 for wider characters is an exchange of ordinary characters. -/
theorem exchanges_castSentinel : Exchanges castSentinel where
  fixes := by
    intro c hc
    have hnul : c ≠ '\x00' := by
      rintro rfl
      exact hc (by decide)
    have hwide : c ≠ '中' := by
      rintro rfl
      exact hc (by decide)
    rw [castSentinel, if_neg hnul, if_neg hwide]
  isOrdinary := by
    intro c hc
    rw [castSentinel]
    split_ifs
    · decide
    · decide
    · exact hc

/-- U+0000 among code, in a comment and behind a backslash in a string, and a script that has it
in other places instead. -/
theorem tokenize_map_castSentinel :
    tokenize "x𝄞#\x00𝄞\n\"\x00\\𝄞\"" =
        [⟨.identifier, "x", 1⟩, ⟨.error, "𝄞", 1⟩, ⟨.string, "\"\x00\\𝄞\"", 2⟩, .eof 2] ∧
      (ByteScan.scans? 8 "x𝄞#\x00𝄞\n\"\x00\\𝄞\"" 1).map (·.2.toList) =
        some [⟨.identifier, "x", 1⟩, ⟨.error, "𝄞", 1⟩, ⟨.string, "\"\x00\\𝄞\"", 2⟩, .eof 2] := by
  have hsource : "x\x00#中\x00\n\"中\\\x00\"".map castSentinel = "x𝄞#\x00𝄞\n\"\x00\\𝄞\"" := by
    rw [map_eq_ofList]
    decide
  obtain ⟨htokens, hscans⟩ := tokenize_map exchanges_castSentinel "x\x00#中\x00\n\"中\\\x00\""
  rw [hsource] at htokens hscans
  have hlexemes : Token.mapLexeme castSentinel =
      fun t => ⟨t.kind, String.ofList (t.lexeme.toList.map castSentinel), t.line⟩ :=
    funext fun t => by rw [Token.mapLexeme, map_eq_ofList]
  rw [hlexemes] at htokens hscans
  exact ⟨htokens.trans (by decide), (hscans 8 (by decide) (by decide)).trans (by decide)⟩

end ScriptLexer
