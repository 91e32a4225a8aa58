import Mathlib.Logic.Function.Iterate
import ScriptLexer.Proofs.Append
import ScriptLexer.Proofs.Listing

/-!
# Listings as Scripts

A listing is a text, so it can be scanned as a script. Row by row its tokens are those of the
script again, each in braces and with the words of its row behind it: `Token.group` are the
tokens of one row. A row is one line, and one more for each line end in its lexeme.

An open string is the exception. It takes all that is listed behind it, and stays open.

## Main results

* `scans_row` — the row of a token is scanned into its group.
* `scans_rows` — rows of closed tokens are scanned into their groups, whatever follows them.
* `tokenize_listing` — the tokens of the listing of a script, with and without an open string.
-/

namespace ScriptLexer

open Grammar

/-! ### The tokens of a row -/

/-- The kind of the lexeme that a kind's name is: a symbol and a keyword are listed as themselves,
any other kind under a word that is not reserved. -/
def Kind.nameKind : Kind → Kind
  | symbol s => symbol s
  | keyword k => keyword k
  | _ => identifier

namespace Token

/-- The number of line ends in the lexeme of a token. -/
def lineEnds (t : Token) : ℕ :=
  t.lexeme.toList.count '\n'

/-- The tokens behind the lexeme in the row of a token, if they stand on line `line`. -/
def fields (t : Token) (line : ℕ) : List Token :=
  [⟨.symbol .comma, ",", line⟩, ⟨t.kind.nameKind, t.kind.name, line⟩, ⟨.symbol .comma, ",", line⟩,
    ⟨.number, toString t.line, line⟩, ⟨.error, "\x7d", line⟩]

/-- The tokens of the row of a token that begins on line `line`. The lexeme is one of them, but
a mark of the end has none; the fields stand on the line that the lexeme ends on. -/
def group (t : Token) (line : ℕ) : List Token :=
  ⟨.error, "\x7b", line⟩ ::
    ((if t.kind = .eof then [] else [⟨t.kind, t.lexeme, line⟩]) ++ t.fields (line + t.lineEnds))

/-- The lexeme that an open string is scanned into in a listing: its own lexeme and all that is
listed behind it, the mark of the end on line `mark` included. -/
def listedOpen (t : Token) (mark : ℕ) : String :=
  t.lexeme ++ ", error, " ++ toString t.line ++ "\x7d\n\x7b, eof, " ++ toString mark ++ "\x7d\n"

end Token

/-- The line on which row `i` begins, counted from 0, in a listing that begins on `line`: one
further for each row before it and for each line end in their lexemes. -/
def rowLine (line : ℕ) (ts : List Token) (i : ℕ) : ℕ :=
  line + i + ((ts.take i).flatMap fun t => t.lexeme.toList).count '\n'

/-- The tokens of the rows of a listing that begins on line `line`. -/
def groups (line : ℕ) (ts : List Token) : List Token :=
  (ts.mapIdx fun i t => t.group (rowLine line ts i)).flatten

variable {c : Char} {k : Kind} {line : ℕ} {r : List Char} {s : String} {t : Token}
  {ts us : List Token}

/-- Behind its first row, a listing goes on a line further for the row and for each line end in its
lexeme. -/
theorem rowLine_cons (line : ℕ) (t : Token) (ts : List Token) (i : ℕ) :
    rowLine line (t :: ts) (i + 1) = rowLine (line + t.lineEnds + 1) ts i := by
  simp only [rowLine, List.take_succ_cons, List.flatMap_cons, List.count_append, Token.lineEnds]
  omega

/-- The rows of a list begin where those of the list before it end. -/
theorem rowLine_append (line : ℕ) (ts us : List Token) :
    rowLine line (ts ++ us) (ts ++ us).length =
      rowLine (rowLine line ts ts.length) us us.length := by
  induction ts generalizing line with
  | nil => rfl
  | cons t ts ih =>
      rw [List.cons_append, List.length_cons, rowLine_cons, ih, List.length_cons, rowLine_cons]

/-- Behind the tokens of its first row, a listing has those of the rows that begin below it. -/
theorem groups_cons (line : ℕ) (t : Token) (ts : List Token) :
    groups line (t :: ts) = t.group line ++ groups (line + t.lineEnds + 1) ts := by
  simp only [groups, List.mapIdx_cons, List.flatten_cons, rowLine_cons]
  rfl

/-! ### Names as lexemes -/

/-- A word that is no keyword is an identifier. -/
theorem isLexeme_of_ofText?_none (hs : s.toList ∈ word) (hnone : Keyword.ofText? s = none) :
    IsLexeme .identifier s.toList := by
  refine .identifier hs fun k hk => ?_
  rw [Keyword.ofText?_eq_some_iff.mpr (String.toList_injective hk)] at hnone
  exact Option.some_ne_none k hnone

/-- The name of a kind is a lexeme. -/
theorem Kind.isLexeme_name (k : Kind) : IsLexeme k.nameKind k.name.toList := by
  cases k with
  | symbol s => exact .symbol s
  | keyword k => exact .keyword k
  | string | number | identifier | eof | error =>
      refine isLexeme_of_ofText?_none (mem_word.mpr ⟨_, _, rfl, rfl, ?_⟩) (by decide)
      exact List.all_eq_true.mp rfl

/-- A character with no class of its own is stray. -/
theorem isStray_of_class (hc : ¬ StartsGap c ∧ c ≠ '"') (hsymbol : Symbol.ofChar? c = none)
    (hword : Character.startsWord c = false) (hdigit : c.isDigit = false) : IsStray c :=
  ⟨hc.1, hc.2, ofChar?_eq_none_iff.mp hsymbol, mt startsWord_iff.mp (Bool.eq_false_iff.mp hword),
    mt isDigit_iff.mp (Bool.eq_false_iff.mp hdigit)⟩

/-- An opening brace is stray. -/
theorem isStray_leftBrace : IsStray '{' :=
  isStray_of_class (by decide) rfl rfl rfl

/-- A closing brace is stray. -/
theorem isStray_rightBrace : IsStray '}' :=
  isStray_of_class (by decide) rfl rfl rfl

/-- A closing brace ends any lexeme before it. -/
theorem separates_rightBrace : Separates '}' :=
  ⟨by decide, by decide, by decide⟩

/-! ### Scans of a row -/

/-- A lexeme without a line end leaves the scan on its line. -/
theorem Scans.token (hscan : Scans line r us) (hw : IsLexeme k s.toList)
    (hr : Stops k s.toList r) (hline : '\n' ∉ s.toList) :
    Scans line (s.toList ++ r) (⟨k, s, line⟩ :: us) := by
  rw [← Nat.add_zero line, ← List.count_eq_zero_of_not_mem hline] at hscan
  have htoken := Scans.lexeme hw hr hscan
  rwa [String.ofList_toList] at htoken

/-- A stray character in front of a text is one more error in front of its tokens. -/
theorem Scans.stray (hscan : Scans line r us) (hc : IsStray c) :
    Scans line (c :: r) (⟨.error, String.ofList [c], line⟩ :: us) := by
  have hstops : Stops .error [c] r := fun hhead => absurd (Option.some.inj hhead) hc.not_quote
  have hline : '\n' ∉ [c] := fun h => hc.not_gap (List.mem_singleton.mp h ▸ by decide)
  rw [← Nat.add_zero line, ← List.count_eq_zero_of_not_mem hline] at hscan
  exact .lexeme (.stray hc) hstops hscan

/-- A comma and the blank behind it. -/
theorem Scans.comma (hscan : Scans line r us) :
    Scans line (',' :: ' ' :: r) (⟨.symbol .comma, ",", line⟩ :: us) := by
  have hblank : Scans line (' ' :: r) us := .gap (w := [' ']) (.space (Or.inl rfl)) hscan
  exact hblank.token (s := ",") (.symbol .comma) (fun hlong => absurd rfl hlong) (by decide)

/-- The name of a kind in front of a comma is one more token. -/
theorem Scans.name (hscan : Scans line (',' :: r) us) (k : Kind) :
    Scans line (k.name.toList ++ ',' :: r) (⟨k.nameKind, k.name, line⟩ :: us) := by
  refine hscan.token k.isLexeme_name (stops_of_separates separates_comma ?_ r) k.notMem_name.2
  rintro ⟨hk, -⟩
  cases k <;> cases hk

/-- A decimal number in front of a closing brace is one more token. -/
theorem Scans.decimal (hscan : Scans line ('}' :: r) us) (n : ℕ) :
    Scans line (Nat.toDigits 10 n ++ '}' :: r) (⟨.number, toString n, line⟩ :: us) := by
  have hdigits : Nat.toDigits 10 n ∈ number := mem_number.mpr (Or.inl (toDigits_mem_digits n))
  have hline : '\n' ∉ Nat.toDigits 10 n := fun h =>
    absurd (isDigit_of_mem_toDigits h) (by decide)
  rw [← toList_toString_nat] at hdigits hline ⊢
  refine hscan.token (.number hdigits) (stops_of_separates separates_rightBrace ?_ r) hline
  rintro ⟨hk, -⟩
  cases hk

/-- What stands behind the lexeme of a row is scanned into the fields of its token. -/
theorem scans_rowEnd (hscan : Scans (line + 1) r us) (t : Token) :
    Scans line (t.rowEnd r) (t.fields line ++ us) := by
  have hbreak : Scans line ('\n' :: r) us := .gap (w := ['\n']) (.space (by decide)) hscan
  exact (((hbreak.stray isStray_rightBrace).decimal t.line).comma.name t.kind).comma

namespace Token

/-- A token whose lexeme ends in its row: a mark of the end, or a lexeme but no open string. -/
def Closes (t : Token) : Prop :=
  t.kind = .eof ∧ t.lexeme = "" ∨ IsLexeme t.kind t.lexeme.toList ∧ ¬ t.OpensString

end Token

/-- **One row.** The row of a token that closes is scanned into the token's group. -/
theorem scans_row (ht : t.Closes) (hscan : Scans (line + t.lineEnds + 1) r us) :
    Scans line ('{' :: (t.lexeme.toList ++ t.rowEnd r)) (t.group line ++ us) := by
  have hfields := scans_rowEnd hscan t
  rcases ht with ⟨hk, hw⟩ | ⟨hw, hopen⟩
  · rw [Token.lineEnds, hw] at hfields
    rw [Token.group, Token.lineEnds, if_pos hk, hw]
    exact hfields.stray isStray_leftBrace
  · have hlexeme := Scans.lexeme hw (Token.stops_rowEnd hopen r) hfields
    rw [String.ofList_toList] at hlexeme
    rw [Token.group, if_neg hw.kind_ne_eof]
    exact hlexeme.stray isStray_leftBrace

/-- **Rows.** The rows of tokens that close are scanned into the groups of the tokens, and the
scan goes on behind them, one line further for every row and every line end in a lexeme. -/
theorem scans_rows (hts : ∀ t ∈ ts, t.Closes)
    (hscan : Scans (rowLine line ts ts.length) r us) :
    Scans line ((Token.renderAll ts).toList ++ r) (groups line ts ++ us) := by
  induction ts generalizing line with
  | nil => exact hscan
  | cons t ts ih =>
      rw [List.forall_mem_cons] at hts
      rw [List.length_cons, rowLine_cons] at hscan
      rw [groups_cons, List.append_assoc, Token.toList_renderAll_row, List.cons_append,
        List.append_assoc, Token.rowEnd_append]
      exact scans_row hts.1 (ih hts.2 hscan)

/-! ### Closed and open ends -/

/-- The tokens of a script all close, or all but the last lexeme do and that is an open string. -/
theorem WellFormed.closes_or_opens {least : ℕ} (h : WellFormed least ts) :
    (∀ t ∈ ts, t.Closes) ∨ ∃ us t, ts = us ++ [t, .eof t.endLine] ∧ (∀ u ∈ us, u.Closes) ∧
      t.kind = .error ∧ IsOpenString t.lexeme.toList := by
  induction h with
  | eof => exact Or.inl (List.forall_mem_singleton.mpr (Or.inl ⟨rfl, rfl⟩))
  | @lexeme least t ts hw hopen _ _ ih =>
      have ht : t.Closes := Or.inr ⟨hw, hopen⟩
      rcases ih with hts | ⟨us, u, rfl, hus, hu⟩
      · exact Or.inl (List.forall_mem_cons.mpr ⟨ht, hts⟩)
      · exact Or.inr ⟨t :: us, u, rfl, List.forall_mem_cons.mpr ⟨ht, hus⟩, hu⟩
  | openString hk hw => exact Or.inr ⟨[], _, rfl, by simp, hk, hw⟩

/-- A token whose lexeme ends in its row is no open string. -/
theorem Token.Closes.not_opensString (h : t.Closes) : ¬ t.OpensString := by
  rcases h with ⟨hk, -⟩ | ⟨-, hopen⟩
  · rintro ⟨hk', -⟩
    cases hk.symm.trans hk'
  · exact hopen

/-- Where no string is open, a listing is scanned into the groups of its tokens. -/
theorem tokenize_listing_of_closed {source : String}
    (h : ∀ t ∈ tokenize source, ¬ t.OpensString) :
    tokenize (listing source) = groups 1 (tokenize source) ++
      [.eof (rowLine 1 (tokenize source) (tokenize source).length)] := by
  rcases (wellFormed_tokenize source).closes_or_opens with hts | ⟨us, t, hts, -, hk, hw⟩
  · have hrows : Scans 1 _ (groups 1 (tokenize source) ++ _) := scans_rows hts .done
    rw [List.append_nil] at hrows
    exact tokenize_eq_iff.mpr hrows
  · exact absurd ⟨hk, hw.1⟩ (h t (by simp [hts]))

/-- A row has one line end more than its lexeme. -/
theorem Token.count_rowEnd (t : Token) (r : List Char) :
    (t.rowEnd r).count '\n' = r.count '\n' + 1 := by
  have hname := List.count_eq_zero_of_not_mem t.kind.notMem_name.2
  have hline : (Nat.toDigits 10 t.line).count '\n' = 0 := List.count_eq_zero_of_not_mem fun h =>
    absurd (isDigit_of_mem_toDigits h) (by decide)
  simp [rowEnd, hname, hline]

/-- The row of an open string and all that is listed behind it are scanned into two tokens. -/
theorem scans_open_row (hw : IsOpenString t.lexeme.toList) (hk : t.kind = .error) (mark : ℕ) :
    Scans line (Token.renderAll [t, .eof mark]).toList
      [⟨.error, "\x7b", line⟩,
        ⟨.error, t.listedOpen mark, line⟩,
        .eof (rowLine line [t, .eof mark] 2)] := by
  have htext : t.lexeme.toList ++ t.rowEnd (Token.renderAll [.eof mark]).toList =
      (t.listedOpen mark).toList := by
    simp [Token.listedOpen, Token.rowEnd, Token.render, Token.eof, hk, Kind.name]
  have hcount : (t.lexeme.toList ++ t.rowEnd (Token.renderAll [.eof mark]).toList).count '\n' =
      t.lineEnds + 2 := by
    rw [List.count_append, Token.count_rowEnd, Token.toList_renderAll_row,
      List.count_cons_of_ne (by decide), List.count_append, Token.count_rowEnd]
    rfl
  have hend : rowLine line [t, .eof mark] 2 = line + (t.lineEnds + 2) := by
    rw [rowLine_cons, rowLine_cons]
    rfl
  have hdone : Scans (rowLine line [t, .eof mark] 2) [] [.eof (rowLine line [t, .eof mark] 2)] :=
    .done
  nth_rewrite 1 [hend, ← hcount] at hdone
  have hrest := Scans.lexeme (.openString (isOpenString_row hw mark)) (fun _ => rfl) hdone
  rw [List.append_nil, htext, String.ofList_toList] at hrest
  rw [Token.toList_renderAll_row, htext]
  exact hrest.stray isStray_leftBrace

/-- An open string is scanned to the end of the listing. -/
theorem tokenize_listing_of_open {source : String} {mark : Token}
    (hts : tokenize source = ts ++ [t, mark]) (hopen : t.OpensString) :
    tokenize (listing source) = groups 1 ts ++
      [⟨.error, "\x7b", rowLine 1 ts ts.length⟩,
        ⟨.error, t.listedOpen mark.line, rowLine 1 ts ts.length⟩,
        .eof (rowLine 1 (tokenize source) (tokenize source).length)] := by
  rcases (wellFormed_tokenize source).closes_or_opens with hcloses | ⟨us, u, hus, hcloses, hk, hw⟩
  · exact absurd hopen (hcloses t (by simp [hts])).not_opensString
  · obtain ⟨rfl, hlast⟩ := List.append_inj' (hts.symm.trans hus) rfl
    obtain ⟨rfl, rfl⟩ : t = u ∧ mark = .eof u.endLine := by simpa using hlast
    have hrows : Scans 1 _ (groups 1 ts ++ _) :=
      scans_rows hcloses (scans_open_row hw hk t.endLine)
    rw [← String.toList_append, ← Token.renderAll_append] at hrows
    rw [tokenize_eq_iff, listing, hts, rowLine_append]
    exact hrows

/-! ### Counting -/

/-- The row of a token holds seven tokens, unless it is the mark of the end. -/
theorem Token.length_group (h : t.kind ≠ .eof) (line : ℕ) : (t.group line).length = 7 := by
  rw [group, if_neg h]
  rfl

/-- Every row has seven tokens, if the mark of the end of the listing is counted with the last. -/
theorem length_groups (hts : ∀ t ∈ ts, t.kind ≠ .eof) (line mark : ℕ) :
    (groups line (ts ++ [Token.eof mark])).length + 1 = 7 * (ts ++ [Token.eof mark]).length := by
  induction ts generalizing line with
  | nil => rfl
  | cons t ts ih =>
      rw [List.forall_mem_cons] at hts
      have hrest := ih hts.2 (line + t.lineEnds + 1)
      rw [List.cons_append, groups_cons, List.length_append, Token.length_group hts.1,
        List.length_cons]
      omega

/-- The name of a kind is never malformed. -/
theorem Kind.nameKind_ne_error (k : Kind) : k.nameKind ≠ .error := by
  cases k <;> exact Kind.noConfusion

/-- Only the lexeme of a row can be an open string. -/
theorem Token.not_opensString_of_mem_group (ht : ¬ t.OpensString) {u : Token}
    (hu : u ∈ t.group line) : ¬ u.OpensString := by
  rw [group, List.mem_cons, List.mem_append] at hu
  rcases hu with rfl | hu | hu
  · have hbrace : "\x7b".toList.head? ≠ some '"' := by decide
    exact fun hopen => hbrace hopen.2
  · by_cases hk : t.kind = .eof
    · rw [if_pos hk] at hu
      cases hu
    · rw [if_neg hk, List.mem_singleton] at hu
      rw [hu]
      exact ht
  · rintro ⟨hk, hhead⟩
    simp only [fields, List.mem_cons, List.not_mem_nil, or_false] at hu
    rcases hu with rfl | rfl | rfl | rfl | rfl
    · cases hk
    · exact t.kind.nameKind_ne_error hk
    · cases hk
    · cases hk
    · have hbrace : "\x7d".toList.head? ≠ some '"' := by decide
      exact hbrace hhead

/-- The rows of tokens that are no open strings hold none. -/
theorem not_opensString_of_mem_groups (hts : ∀ t ∈ ts, ¬ t.OpensString) {u : Token}
    (hu : u ∈ groups line ts) : ¬ u.OpensString := by
  induction ts generalizing line with
  | nil => cases hu
  | cons t ts ih =>
      rw [List.forall_mem_cons] at hts
      rw [groups_cons, List.mem_append] at hu
      rcases hu with hu | hu
      · exact Token.not_opensString_of_mem_group hts.1 hu
      · exact ih hts.2 hu

/-- Listing a script without open strings makes a script without open strings that has seven
times as many tokens. -/
theorem relisting_closed {source : String} (h : ∀ t ∈ tokenize source, ¬ t.OpensString) :
    (tokenize (listing source)).length = 7 * (tokenize source).length ∧
      ∀ t ∈ tokenize (listing source), ¬ t.OpensString := by
  rw [tokenize_listing_of_closed h]
  constructor
  · obtain ⟨us, -, htokens, hus, -⟩ := (scans_tokenize source).exists_layout
    rw [htokens, List.length_append, List.length_singleton]
    exact length_groups (fun u hu => (hus u hu).kind_ne_eof) 1 _
  · intro t ht
    rcases List.mem_append.mp ht with ht | ht
    · exact not_opensString_of_mem_groups h ht
    · rw [List.mem_singleton.mp ht]
      rintro ⟨hk, -⟩
      cases hk

/-- And so it goes on when the listing is listed. -/
theorem iterate_listing_closed {source : String} (h : ∀ t ∈ tokenize source, ¬ t.OpensString)
    (n : ℕ) : (tokenize (listing^[n] source)).length = 7 ^ n * (tokenize source).length ∧
      ∀ t ∈ tokenize (listing^[n] source), ¬ t.OpensString := by
  induction n with
  | zero => exact ⟨(Nat.one_mul _).symm, h⟩
  | succ n ih =>
      rw [Function.iterate_succ_apply']
      obtain ⟨hlength, hopen⟩ := relisting_closed ih.2
      refine ⟨?_, hopen⟩
      rw [hlength, ih.1, ← Nat.mul_assoc, Nat.pow_succ']

/-- The texts of repeated listing, in order. -/
theorem getElem?_relistings {rounds i : ℕ} (hi : i < rounds) (source : String) :
    (relistings rounds source)[i]? = some (listing^[i + 1] source) := by
  induction rounds generalizing i source with
  | zero => cases hi
  | succ rounds ih =>
      cases i with
      | zero => rfl
      | succ i => exact ih (Nat.lt_of_succ_lt_succ hi) (listing source)

/-- **Scanning a listing.** Where no string is open, the tokens of a script's listing are the
groups of the script's tokens. There are seven for every token of the script, no string is open
among them, and so it goes on when listings are listed. An open string is scanned, after the
groups of the tokens before it, together with all that is listed behind it. -/
theorem tokenize_listing (source : String) :
    ((∀ t ∈ tokenize source, ¬ t.OpensString) →
      tokenize (listing source) = groups 1 (tokenize source) ++
        [.eof (rowLine 1 (tokenize source) (tokenize source).length)] ∧
      (tokenize (listing source)).length = 7 * (tokenize source).length ∧
      (∀ t ∈ tokenize (listing source), ¬ t.OpensString) ∧
      ∀ rounds i, i < rounds → ∃ text, (relistings rounds source)[i]? = some text ∧
        (tokenize text).length = 7 ^ (i + 1) * (tokenize source).length) ∧
    ∀ ts t mark, tokenize source = ts ++ [t, mark] → t.OpensString →
      tokenize (listing source) = groups 1 ts ++
        [⟨.error, "\x7b", rowLine 1 ts ts.length⟩,
          ⟨.error, t.listedOpen mark.line, rowLine 1 ts ts.length⟩,
          .eof (rowLine 1 (tokenize source) (tokenize source).length)] := by
  refine ⟨fun h => ⟨tokenize_listing_of_closed h, (relisting_closed h).1, (relisting_closed h).2,
    fun rounds i hi => ?_⟩, fun ts t mark hts hopen => tokenize_listing_of_open hts hopen⟩
  exact ⟨_, getElem?_relistings hi source, (iterate_listing_closed h (i + 1)).1⟩

/-- A string over two lines moves the fields of its row to the second; a string that its last
character, a backslash, keeps open takes the comma behind it and the end of the listing. -/
theorem tokenize_listing_strings :
    ((∀ t ∈ tokenize "\"\n\"", ¬ t.OpensString) ∧
      tokenize (listing "\"\n\"") = [⟨.error, "\x7b", 1⟩, ⟨.string, "\"\n\"", 1⟩,
        ⟨.symbol .comma, ",", 2⟩, ⟨.identifier, "string", 2⟩, ⟨.symbol .comma, ",", 2⟩,
        ⟨.number, "1", 2⟩, ⟨.error, "\x7d", 2⟩, ⟨.error, "\x7b", 3⟩, ⟨.symbol .comma, ",", 3⟩,
        ⟨.identifier, "eof", 3⟩, ⟨.symbol .comma, ",", 3⟩, ⟨.number, "2", 3⟩,
        ⟨.error, "\x7d", 3⟩, .eof 4] ∧
      ∃ text, (relistings 2 "\"\n\"")[1]? = some text ∧ (tokenize text).length = 98) ∧
    tokenize (listing "\"\\") = [⟨.error, "\x7b", 1⟩,
      ⟨.error, "\"\\, error, 1\x7d\n\x7b, eof, 1\x7d\n", 1⟩, .eof 3] := by
  have hclosed : ∀ t ∈ tokenize "\"\n\"", ¬ t.OpensString := by decide
  have hopen : tokenize "\"\\" = [] ++ [⟨.error, "\"\\", 1⟩, .eof 1] := by decide
  obtain ⟨htokens, -, -, hrounds⟩ := (tokenize_listing "\"\n\"").1 hclosed
  obtain ⟨text, htext, hlength⟩ := hrounds 2 1 (by decide)
  refine ⟨⟨hclosed, htokens.trans (by decide), text, htext, hlength.trans (by decide)⟩, ?_⟩
  exact ((tokenize_listing "\"\\").2 _ _ _ hopen (by decide)).trans (by decide)

end ScriptLexer
