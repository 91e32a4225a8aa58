import ScriptLexer.Proofs.Stream

/-!
# Listings

A listing writes the lexemes of tokens as they stand in the script, so a string may bring line
ends, braces and whole rows of a listing with it. The listing of a script can be read all the
same. Behind its opening brace a row begins with a lexeme that stops at the comma which follows
it, and no other lexeme does; kind and line follow. Only an open string does not stop: there the
rest of the listing is read from its end, where the lines stand.

## Main results

* `stops_of_separates` — a lexeme stops before a comma or a brace.
* `IsOpenString.append` — an open string stays open in front of text without a quote.
* `Token.render_eq_iff` — a row on its own determines its token, whatever the lexeme is.
* `WellFormed.eq_of_renderAll_eq` — well-formed lists with one listing are the same.
* `listing_eq_iff` — scripts have the same listing exactly if they have the same tokens.
-/

namespace ScriptLexer

open Grammar

variable {c : Char} {k : Kind} {p : Char → Bool} {u v w r r' text : List Char} {m n : ℕ}

/-! ### Decimal numbers -/

/-- A number is written with its decimal digits. -/
theorem toList_toString_nat (n : ℕ) : (toString n).toList = Nat.toDigits 10 n := by
  rw [Nat.toString_eq_ofList_toDigits, String.toList_ofList]

/-- Decimal digits are digits. -/
theorem isDigit_of_mem_toDigits (hc : c ∈ Nat.toDigits 10 n) : c.isDigit = true :=
  Nat.isDigit_of_mem_toDigits (by decide) (by decide) hc

/-- A number is written as digits, with one at least. -/
theorem toDigits_mem_digits (n : ℕ) : Nat.toDigits 10 n ∈ digits :=
  mem_digits.mpr ⟨Nat.toDigits_ne_nil, fun _ => isDigit_of_mem_toDigits⟩

/-- Numbers with the same decimal digits are equal. -/
theorem toDigits_injective (h : Nat.toDigits 10 m = Nat.toDigits 10 n) : m = n := by
  calc
    m = Nat.ofDigitChars 10 (Nat.toDigits 10 m) 0 := Nat.ofDigitChars_ten_toDigits.symm
    _ = Nat.ofDigitChars 10 (Nat.toDigits 10 n) 0 := by rw [h]
    _ = n := Nat.ofDigitChars_ten_toDigits

/-- Runs of a class that begin one text, and break there, are the same. -/
theorem run_unique (hu : ∀ c ∈ u, p c = true) (hv : ∀ c ∈ v, p c = true) (hr : Breaks p r)
    (hr' : Breaks p r') (h : u ++ r = v ++ r') : u = v ∧ r = r' := by
  have huv : u = v := by
    rw [← takeWhile_append_of_breaks hu hr, h, takeWhile_append_of_breaks hv hr']
  exact ⟨huv, List.append_cancel_left (huv ▸ h)⟩

/-- A number that a text begins with is read off from the left. -/
theorem toDigits_append_unique (hr : Breaks Char.isDigit r) (hr' : Breaks Char.isDigit r')
    (h : Nat.toDigits 10 m ++ r = Nat.toDigits 10 n ++ r') : m = n ∧ r = r' := by
  obtain ⟨hdigits, hrest⟩ := run_unique (fun _ => isDigit_of_mem_toDigits)
    (fun _ => isDigit_of_mem_toDigits) hr hr' h
  exact ⟨toDigits_injective hdigits, hrest⟩

/-- Runs of a class that end one text, behind a character outside of it, are the same. -/
theorem append_run_unique (hv : ∀ c ∈ v, p c = true) (hw : ∀ c ∈ w, p c = true)
    (hc : p c = false) (h : u ++ c :: v = r ++ c :: w) : u = r ∧ v = w := by
  have hreverse := congrArg List.reverse h
  rw [List.reverse_append, List.reverse_append, List.reverse_cons, List.reverse_cons,
    List.append_assoc, List.append_assoc] at hreverse
  obtain ⟨hrun, hrest⟩ := run_unique (fun d hd => hv d (List.mem_reverse.mp hd))
    (fun d hd => hw d (List.mem_reverse.mp hd)) (breaks_cons.mpr hc) (breaks_cons.mpr hc) hreverse
  exact ⟨List.reverse_injective (List.cons.inj hrest).2, List.reverse_injective hrun⟩

/-- A number that a text ends with, behind a character that is no digit, is read off from the
right. -/
theorem append_toDigits_unique (hc : c.isDigit = false)
    (h : u ++ c :: Nat.toDigits 10 m = v ++ c :: Nat.toDigits 10 n) : u = v ∧ m = n := by
  obtain ⟨hbefore, hdigits⟩ := append_run_unique (fun _ => isDigit_of_mem_toDigits)
    (fun _ => isDigit_of_mem_toDigits) hc h
  exact ⟨hbefore, toDigits_injective hdigits⟩

/-! ### Lexemes in a row -/

/-- A character with which no lexeme goes on: neither a word nor a number or an operator. -/
structure Separates (c : Char) : Prop where
  not_equals : c ≠ '='
  not_point : c ≠ '.'
  not_word : Character.continuesWord c = false

/-- A comma ends any lexeme before it. -/
theorem separates_comma : Separates ',' :=
  ⟨by decide, by decide, by decide⟩

/-- A character that ends any lexeme is no digit. -/
theorem Separates.not_digit (hc : Separates c) : c.isDigit = false :=
  (Bool.or_eq_false_iff.mp hc.not_word).2

/-- A lexeme stops before a separating character, except a string that does not close. -/
theorem stops_of_separates (hc : Separates c) (hopen : ¬ (k = .error ∧ w.head? = some '"'))
    (r : List Char) : Stops k w (c :: r) := by
  cases k with
  | symbol s => exact fun _ => breaks_cons.mpr (beq_eq_false_iff_ne.mpr hc.not_equals)
  | keyword | identifier => exact breaks_cons.mpr hc.not_word
  | number =>
      refine ⟨breaks_cons.mpr hc.not_digit, ?_⟩
      rintro - ⟨d, v, htext, -⟩
      exact hc.not_point (List.cons.inj htext).1
  | error => exact fun hhead => absurd ⟨rfl, hhead⟩ hopen
  | string | eof => trivial

/-- A string that is open stays so in front of a text without a quote. -/
theorem IsOpenString.append (h : IsOpenString w) (hv : '"' ∉ v) : IsOpenString (w ++ v) := by
  obtain ⟨hhead, hopen⟩ := h
  refine ⟨by rw [List.head?_append, hhead]; rfl, fun u hu hpre => ?_⟩
  rcases List.prefix_or_prefix_of_prefix hpre (List.prefix_append w v) with hshort | ⟨x, rfl⟩
  · exact hopen u hu hshort
  · -- the closing quote is not in `w`, so it is one of the characters of `v`
    obtain ⟨body, -, htext⟩ := mem_closedString.mp hu
    have hlast : (w ++ x).getLast? = some '"' := by
      rw [htext, ← List.cons_append, List.getLast?_concat]
    have hx : x <+: v := (List.prefix_append_right_inj w).mp hpre
    by_cases hnil : x = []
    · subst hnil
      rw [List.append_nil] at hu
      exact hopen w hu (List.prefix_refl w)
    · rw [List.getLast?_append_of_ne_nil w hnil] at hlast
      exact hv (hx.subset (List.mem_of_getLast? hlast))

namespace Token

/-! ### Rows -/

/-- What stands in a listing behind the lexeme of a token: kind and line, and the rows after. -/
def rowEnd (t : Token) (r : List Char) : List Char :=
  ',' :: ' ' :: (t.kind.name.toList ++ ',' :: ' ' :: (Nat.toDigits 10 t.line ++ '}' :: '\n' :: r))

/-- A row is a brace, the lexeme and what stands behind it. -/
theorem toList_renderAll_row (t : Token) (ts : List Token) :
    (renderAll (t :: ts)).toList =
      '{' :: (t.lexeme.toList ++ t.rowEnd (renderAll ts).toList) := by
  simp [render, rowEnd]

/-- More text behind the rows after a token is more text behind its row. -/
theorem rowEnd_append (t : Token) (r s : List Char) : t.rowEnd r ++ s = t.rowEnd (r ++ s) := by
  simp [rowEnd]

variable {t t' : Token}

/-- The lexeme of a row stops before what stands behind it, except a string that does not
close. -/
theorem stops_rowEnd (hopen : ¬ t.OpensString) (r : List Char) :
    Stops t.kind t.lexeme.toList (t.rowEnd r) :=
  stops_of_separates separates_comma hopen _

/-- Behind the lexemes of tokens of one kind, rows with the same text are on one line. -/
theorem rowEnd_unique (hk : t.kind = t'.kind) (h : t.rowEnd r = t'.rowEnd r') :
    t.line = t'.line ∧ r = r' := by
  simp only [rowEnd, hk, List.cons.injEq, true_and, List.append_cancel_left_eq] at h
  obtain ⟨hline, hrest⟩ := toDigits_append_unique (by simp) (by simp) h
  exact ⟨hline, by simpa using hrest⟩

/-- The last row of a listing is read from its end, whatever stands before it. -/
theorem append_rowEnd_unique (hk : t.kind = t'.kind) (h : u ++ t.rowEnd [] = v ++ t'.rowEnd []) :
    u = v ∧ t.line = t'.line := by
  have hrow : ∀ (u : List Char) (t : Token), u ++ t.rowEnd [] =
      (u ++ ',' :: ' ' :: (t.kind.name.toList ++ [','])) ++ ' ' :: Nat.toDigits 10 t.line ++
        ['}', '\n'] := by
    intro u t
    simp [rowEnd]
  rw [hrow, hrow, List.append_cancel_right_eq] at h
  obtain ⟨hbefore, hline⟩ := append_toDigits_unique (by decide) h
  rw [hk] at hbefore
  exact ⟨List.append_cancel_right hbefore, hline⟩

/-- Tokens are equal if their kinds, the characters of their lexemes and their lines are. -/
theorem eq_of_toList (hk : t.kind = t'.kind) (hw : t.lexeme.toList = t'.lexeme.toList)
    (hline : t.line = t'.line) : t = t' := by
  cases t
  cases t'
  rw [mk.injEq]
  exact ⟨hk, String.toList_injective hw, hline⟩

end Token

variable {t t' : Token} {ts us : List Token} {least least' line line' : ℕ}

/-! ### No quotes between lexemes -/

/-- No kind is listed under a name with a quote or a line end in it. -/
theorem Kind.notMem_name (k : Kind) : '"' ∉ k.name.toList ∧ '\n' ∉ k.name.toList := by
  have hall : ∀ k ∈ all, '"' ∉ k.name.toList ∧ '\n' ∉ k.name.toList := by decide +kernel
  exact hall k (mem_all k)

/-- Between the lexemes of a listing there are no quotes. -/
theorem Token.quote_notMem_rowEnd (t : Token) (hr : '"' ∉ r) : '"' ∉ t.rowEnd r := by
  have hname := t.kind.notMem_name.1
  have hline : '"' ∉ Nat.toDigits 10 t.line := fun hquote =>
    absurd (isDigit_of_mem_toDigits hquote) (by decide)
  simp [rowEnd, hname, hline, hr]

/-- The row of an open string goes on with an open string up to the end of the listing. -/
theorem isOpenString_row (hw : IsOpenString t.lexeme.toList) (line : ℕ) :
    IsOpenString (t.lexeme.toList ++ t.rowEnd (Token.renderAll [.eof line]).toList) := by
  refine hw.append (t.quote_notMem_rowEnd ?_)
  rw [Token.toList_renderAll_row]
  have hend := (Token.eof line).quote_notMem_rowEnd (r := []) List.not_mem_nil
  simpa [Token.eof] using hend

/-! ### A row on its own -/

/-- No kind is listed under a name with a space in it. -/
theorem Kind.space_notMem_name (k : Kind) : ' ' ∉ k.name.toList := by
  have hall : ∀ k ∈ all, ' ' ∉ k.name.toList := by decide +kernel
  exact hall k (mem_all k)

/-- **A row determines its token**, whatever the lexeme is. The row is read from its end: neither
the line nor the name of a kind has a space in it, so each begins behind the last space that is
left, and the lexeme is what then stands between the brace and the comma. -/
theorem Token.render_eq_iff (t t' : Token) : t.render = t'.render ↔ t = t' := by
  constructor
  · intro h
    have hrow : ∀ t : Token, t.render.toList =
        ('{' :: t.lexeme.toList ++ [',']) ++ ' ' :: t.kind.name.toList ++ [','] ++
          ' ' :: Nat.toDigits 10 t.line ++ ['}'] := by
      intro t
      simp [render]
    have hname : ∀ k : Kind, ∀ c ∈ k.name.toList, (c != ' ') = true := fun k c hc =>
      bne_iff_ne.mpr fun hspace => k.space_notMem_name (hspace ▸ hc)
    have htext := congrArg String.toList h
    rw [hrow, hrow, List.append_cancel_right_eq] at htext
    obtain ⟨hbefore, hline⟩ := append_toDigits_unique (by decide) htext
    obtain ⟨hlexeme, hkind⟩ := append_run_unique (hname t.kind) (hname t'.kind) (by decide)
      (List.append_cancel_right hbefore)
    exact eq_of_toList (Kind.name_injective (String.toList_injective hkind))
      (List.cons.inj (List.append_cancel_right hlexeme)).2 hline
  · exact congrArg render

/-! ### A listing determines its tokens -/

/-- The text behind the brace of a row that marks the end begins with a comma as a lexeme. -/
theorem exists_eof_row (line : ℕ) (ts : List Token) :
    ∃ r, (Token.renderAll (.eof line :: ts)).toList = '{' :: ([','] ++ ' ' :: r) ∧
      Stops (.symbol .comma) [','] (' ' :: r) :=
  ⟨_, Token.toList_renderAll_row _ _, fun hlong => absurd rfl hlong⟩

/-- A row that marks the end is not the row of a lexeme. -/
theorem eof_row_ne_row (hw : IsLexeme t.kind t.lexeme.toList) (hopen : ¬ t.OpensString) :
    (Token.renderAll (.eof line :: ts)).toList ≠ (Token.renderAll (t :: us)).toList := by
  intro h
  obtain ⟨r, hr, hstops⟩ := exists_eof_row line ts
  rw [hr, Token.toList_renderAll_row] at h
  obtain ⟨-, -, hrest⟩ :=
    (IsLexeme.symbol .comma).unique hstops hw (Token.stops_rowEnd hopen _) (List.cons.inj h).2
  cases hrest

/-- A row that marks the end is not the row of an open string. -/
theorem eof_row_ne_open_row (hw : IsOpenString t.lexeme.toList) :
    (Token.renderAll (.eof line :: ts)).toList ≠ (Token.renderAll (t :: us)).toList := by
  intro h
  obtain ⟨v, hv⟩ := List.head?_eq_some_iff.mp hw.1
  rw [Token.toList_renderAll_row, Token.toList_renderAll_row, hv] at h
  cases h

/-- The row of a lexeme is not the row of an open string. -/
theorem row_ne_open_row (hw : IsLexeme t.kind t.lexeme.toList) (hopen : ¬ t.OpensString)
    (hw' : IsOpenString t'.lexeme.toList) :
    (Token.renderAll (t :: ts)).toList ≠ (Token.renderAll [t', .eof line]).toList := by
  intro h
  have hstring := isOpenString_row hw' line
  rw [Token.toList_renderAll_row, Token.toList_renderAll_row,
    ← List.append_nil (t'.lexeme.toList ++ _)] at h
  obtain ⟨hk, htext, -⟩ := hw.unique (Token.stops_rowEnd hopen _) (.openString hstring)
    (fun _ => rfl) (List.cons.inj h).2
  exact hopen ⟨hk, htext ▸ hstring.1⟩

/-- Rows of lexemes with the same text are rows of the same token, with the same rows behind. -/
theorem row_unique (hw : IsLexeme t.kind t.lexeme.toList) (hopen : ¬ t.OpensString)
    (hw' : IsLexeme t'.kind t'.lexeme.toList) (hopen' : ¬ t'.OpensString)
    (h : (Token.renderAll (t :: ts)).toList = (Token.renderAll (t' :: us)).toList) :
    t = t' ∧ (Token.renderAll ts).toList = (Token.renderAll us).toList := by
  rw [Token.toList_renderAll_row, Token.toList_renderAll_row] at h
  obtain ⟨hk, htext, hend⟩ := hw.unique (Token.stops_rowEnd hopen _) hw'
    (Token.stops_rowEnd hopen' _) (List.cons.inj h).2
  obtain ⟨hline, hrest⟩ := Token.rowEnd_unique hk hend
  exact ⟨Token.eq_of_toList hk htext hline, hrest⟩

/-- The rows of an open string and of the mark of the end are read from the right. -/
theorem open_row_unique (hk : t.kind = t'.kind)
    (h : (Token.renderAll [t, .eof line]).toList = (Token.renderAll [t', .eof line']).toList) :
    t = t' ∧ line = line' := by
  have hrows : ∀ (t : Token) (line : ℕ), (Token.renderAll [t, .eof line]).toList =
      '{' :: (t.lexeme.toList ++ t.rowEnd []) ++ ['{'] ++ (Token.eof line).rowEnd [] := by
    intro t line
    simp [Token.render, Token.rowEnd, Token.eof]
  have heof : (Token.eof line).kind = (Token.eof line').kind := rfl
  rw [hrows, hrows] at h
  obtain ⟨hrow, hline⟩ := Token.append_rowEnd_unique heof h
  obtain ⟨htext, hline'⟩ :=
    Token.append_rowEnd_unique hk (List.cons.inj (List.append_cancel_right hrow)).2
  exact ⟨Token.eq_of_toList hk htext hline', hline⟩

/-- **A listing determines its tokens**, if they are well formed. The induction is on one of the
two lists, row by row from the left; at an open string the rest is read from the right. -/
theorem WellFormed.eq_of_renderAll_eq (h : WellFormed least ts) (h' : WellFormed least' us)
    (hlisting : (Token.renderAll ts).toList = (Token.renderAll us).toList) : ts = us := by
  induction h generalizing least' us with
  | @eof _ line =>
      cases h' with
      | @eof _ line' =>
          have heof : (Token.eof line).kind = (Token.eof line').kind := rfl
          rw [Token.toList_renderAll_row, Token.toList_renderAll_row] at hlisting
          obtain ⟨hline, -⟩ := Token.rowEnd_unique heof (List.cons.inj hlisting).2
          exact congrArg (fun line => [Token.eof line]) hline
      | lexeme hw' hopen' => exact absurd hlisting (eof_row_ne_row hw' hopen')
      | openString _ hw' => exact absurd hlisting (eof_row_ne_open_row hw')
  | lexeme hw hopen _ _ ih =>
      cases h' with
      | eof => exact absurd hlisting.symm (eof_row_ne_row hw hopen)
      | lexeme hw' hopen' _ hus =>
          obtain ⟨rfl, hrest⟩ := row_unique hw hopen hw' hopen' hlisting
          rw [ih hus hrest]
      | openString _ hw' => exact absurd hlisting (row_ne_open_row hw hopen hw')
  | openString hk hw =>
      cases h' with
      | eof => exact absurd hlisting.symm (eof_row_ne_open_row hw)
      | lexeme hw' hopen' => exact absurd hlisting.symm (row_ne_open_row hw' hopen' hw)
      | openString hk' _ =>
          obtain ⟨rfl, -⟩ := open_row_unique (hk.trans hk'.symm) hlisting
          rfl

/-- **The listing determines the tokens.** Scripts have the same listing exactly if they have
the same tokens, although a lexeme is listed as it is, line ends, braces and all. -/
theorem listing_eq_iff (a b : String) : listing a = listing b ↔ tokenize a = tokenize b := by
  constructor
  · intro h
    exact (wellFormed_tokenize a).eq_of_renderAll_eq (wellFormed_tokenize b)
      (congrArg String.toList h)
  · exact congrArg Token.renderAll

end ScriptLexer
