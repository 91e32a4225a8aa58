import ScriptLexer.Proofs.Layout

/-!
# Changing the Layout

Comments, blanks and tabs mean nothing. `Replaces ts gs hs` says when gaps `hs` may stand in
place of gaps `gs` around tokens `ts`: line ends are neither added nor lost, comments stay on
their own lines, and tokens stay apart. Nothing is asked of what the comments contain.

A string that does not close is the exception: nothing may follow it, for it would take a gap
in as well.

## Main results

* `Replaces.scans` — a text with replaced gaps has the same scan.
* `tokenize_weave` — a script with replaced gaps has the same tokens, on the same lines.
-/

namespace ScriptLexer

open Grammar

/-- The gaps `hs` may replace `gs` around the tokens `ts`. -/
structure Replaces (ts : List Token) (gs hs : List String) : Prop where
  /-- There are as many gaps, each with as many line ends. -/
  lines : List.Forall₂ (fun g h => h.toList.count '\n' = g.toList.count '\n') gs hs
  /-- In front of a token, every comment is followed by a line end in its gap. -/
  closed : ∀ h ∈ hs.dropLast, IsGap False h.toList
  /-- Behind the tokens, a comment may also be followed by the end of the text. -/
  final : ∀ h ∈ hs.getLast?, IsGap True h.toList
  /-- Between two tokens there is something. -/
  apart : ∀ h ∈ hs.dropLast.tail, h ≠ ""
  /-- Behind a string that does not close there is nothing. -/
  tight : ∀ t ∈ ts.getLast?, t.OpensString → ∀ h ∈ hs.getLast?, h = ""

variable {line : ℕ} {gs hs : List String} {s g h : String} {t : Token} {ts : List Token}

namespace Replaces

/-- Gaps that replace others do so behind the first token as well. -/
theorem tail (hreplace : Replaces (t :: ts) (g :: gs) (h :: hs)) (hhs : hs ≠ []) :
    Replaces ts gs hs := by
  obtain ⟨hlines, hclosed, hfinal, hapart, htight⟩ := hreplace
  rw [List.dropLast_cons_of_ne_nil hhs] at hclosed hapart
  rw [List.getLast?_cons_of_ne_nil hhs] at hfinal htight
  refine ⟨(List.forall₂_cons.mp hlines).2, fun h' hh' => ?_, hfinal, fun h' hh' => ?_,
    fun u hu hopen => ?_⟩
  · exact hclosed h' (List.mem_cons_of_mem h hh')
  · exact hapart h' (List.mem_of_mem_tail hh')
  · have hts : ts ≠ [] := fun hnil => by rw [hnil] at hu; cases hu
    rw [List.getLast?_cons_of_ne_nil hts] at htight
    exact htight u hu hopen

/-- Behind a token, a text with replaced gaps is at its end or goes on with a gap. -/
theorem gapAhead (hreplace : Replaces (t :: ts) (g :: gs) (h :: hs))
    (hlength : hs.length = ts.length + 1) : GapAhead (weave hs (ts.map Token.lexeme)).toList := by
  obtain ⟨h', hs, rfl⟩ := List.exists_cons_of_length_eq_add_one hlength
  obtain ⟨-, hclosed, hfinal, hapart, -⟩ := hreplace
  cases ts with
  | nil =>
      obtain rfl : hs = [] := List.length_eq_zero_iff.mp (Nat.succ.inj hlength)
      exact (hfinal h' rfl).gapAhead
  | cons u us =>
      have hhs : hs ≠ [] := List.ne_nil_of_length_eq_add_one (Nat.succ.inj hlength)
      rw [List.dropLast_cons_of_ne_nil (List.cons_ne_nil h' hs),
        List.dropLast_cons_of_ne_nil hhs] at hclosed hapart
      rw [List.map_cons, weave, String.toList_append]
      refine (hclosed h' (List.mem_cons_of_mem h List.mem_cons_self)).gapAhead_append ?_ _
      exact mt String.toList_eq_nil_iff.mp (hapart h' List.mem_cons_self)

/-- Where a string that does not close has nothing behind it, replaced gaps put nothing there. -/
theorem weave_eq_empty (hreplace : Replaces (t :: ts) (g :: gs) (h :: hs))
    (hlength : hs.length = ts.length + 1) (hopen : t.OpensString)
    (hlayout : Layout gs (ts.map Token.lexeme) "")
    (hts : ∀ u ∈ ts, IsLexeme u.kind u.lexeme.toList) :
    weave hs (ts.map Token.lexeme) = "" := by
  cases ts with
  | nil =>
      obtain ⟨h', rfl⟩ := List.length_eq_one_iff.mp hlength
      exact hreplace.tight t rfl hopen h' rfl
  | cons u us =>
      have hempty := congrArg String.toList hlayout.weave_eq
      cases gs with
      | nil => exact absurd hlayout.length_eq (Nat.succ_ne_zero _).symm
      | cons g' gs =>
          rw [List.map_cons, weave, String.toList_append, String.toList_append,
            String.toList_empty, List.append_eq_nil_iff, List.append_eq_nil_iff] at hempty
          exact absurd hempty.2.1 (hts u List.mem_cons_self).ne_nil

/-- **Replaced gaps do not change a scan.** Both texts are scanned side by side, token by token.
At each token their rests are different, but they begin with gaps alike, and on one line. -/
theorem scans {mark : Token} (hreplace : Replaces ts gs hs)
    (hlayout : Layout gs (ts.map Token.lexeme) s)
    (hts : ∀ t ∈ ts, IsLexeme t.kind t.lexeme.toList)
    (hscan : Scans line s.toList (ts ++ [mark])) :
    Scans line (weave hs (ts.map Token.lexeme)).toList (ts ++ [mark]) := by
  induction ts generalizing gs hs s line with
  | nil =>
      cases hlayout with
      | last hg =>
          obtain ⟨hlines, -, hfinal, -, -⟩ := hreplace
          obtain ⟨h, hs, hcount, hnil, rfl⟩ := List.forall₂_cons_left_iff.mp hlines
          obtain rfl := List.forall₂_nil_left_iff.mp hnil
          have hh := hfinal h rfl
          rw [← List.append_nil s.toList, scans_append_gap hg fun _ => breaks_nil] at hscan
          rw [List.map_nil, weave, ← List.append_nil h.toList,
            scans_append_gap hh fun _ => breaks_nil, hcount]
          exact hscan
  | cons t ts ih =>
      have hlength := hlayout.length_eq
      obtain ⟨g, gs, r, rfl, rfl, hrest, hline, hstops, hscan⟩ :=
        hlayout.scans_cons hscan (hts t List.mem_cons_self)
      obtain ⟨h, hs, hcount, htail, rfl⟩ := List.forall₂_cons_left_iff.mp hreplace.lines
      have hlength' : hs.length = ts.length + 1 := by
        rw [← htail.length_eq, hrest.length_eq, List.length_map]
      have hhs : hs ≠ [] := List.ne_nil_of_length_eq_add_one hlength'
      have hts' : ∀ u ∈ ts, IsLexeme u.kind u.lexeme.toList :=
        fun u hu => hts u (List.mem_cons_of_mem t hu)
      have hgap : IsGap False h.toList := by
        refine hreplace.closed h ?_
        rw [List.dropLast_cons_of_ne_nil hhs]
        exact List.mem_cons_self
      have hstops' : Stops t.kind t.lexeme.toList (weave hs (ts.map Token.lexeme)).toList := by
        refine stops_of_gapAhead (hreplace.gapAhead hlength') fun hk hhead => ?_
        rw [hk] at hstops
        obtain rfl := String.toList_eq_nil_iff.mp (hstops hhead)
        rw [hreplace.weave_eq_empty hlength' ⟨hk, hhead⟩ hrest hts', String.toList_empty]
      have htoken := Scans.lexeme (hts t List.mem_cons_self) hstops'
        (ih (hreplace.tail hhs) hrest hts' hscan)
      rw [String.ofList_toList] at htoken
      rw [List.map_cons, weave, String.toList_append, scans_append_gap hgap False.elim, hcount,
        ← hline, String.toList_append]
      exact htoken

end Replaces

/-- **Layout means nothing.** A script whose gaps are replaced has the same tokens, on the same
lines. -/
theorem tokenize_weave {source : String} (htokens : tokenize source = ts ++ [.eof line])
    (hlayout : Layout gs (ts.map Token.lexeme) source) (hreplace : Replaces ts gs hs) :
    tokenize (weave hs (ts.map Token.lexeme)) = tokenize source := by
  have hscan := tokenize_eq_iff.mp htokens
  obtain ⟨us, -, htokens', hus, -⟩ := hscan.exists_layout
  obtain ⟨rfl, -⟩ := List.append_inj' htokens' rfl
  rw [htokens]
  exact tokenize_eq_iff.mpr (hreplace.scans hlayout hus hscan)

/-- A line end gives way to a comment with a quote, a hash and a zero in it, and an open string
follows. -/
theorem tokenize_weave_comment :
    tokenize "\ta\r =#\"=#\x00\n \"b" = tokenize "a =\n\"b" := by
  have htokens : tokenize "a =\n\"b" =
      [⟨.identifier, "a", 1⟩, ⟨.symbol .assign, "=", 1⟩, ⟨.error, "\"b", 2⟩] ++ [.eof 2] := by
    decide
  have hspace : ∀ ends, IsGap ends " ".toList := fun _ => .space (by decide) .nil
  have hbreak : ∀ ends, IsGap ends "\n".toList := fun _ => .space (by decide) .nil
  have hlayout : Layout ["", " ", "\n", ""] ["a", "=", "\"b"] "a =\n\"b" :=
    .cons (g := "") .nil (.cons (g := " ") (hspace _)
      (.cons (g := "\n") (hbreak _) (.last (g := "") .nil)))
  have hcomment : IsGap False "#\"=#\x00\n ".toList :=
    IsGap.comment (w := ['"', '=', '#', '\x00']) (by decide)
      (.space (by decide) (.space (by decide) .nil))
  have hreplace : Replaces
      [⟨.identifier, "a", 1⟩, ⟨.symbol .assign, "=", 1⟩, ⟨.error, "\"b", 2⟩]
      ["", " ", "\n", ""] ["\t", "\r ", "#\"=#\x00\n ", ""] := by
    refine ⟨by decide, List.forall_mem_cons.mpr ⟨.space (by decide) .nil,
      List.forall_mem_cons.mpr ⟨.space (by decide) (.space (by decide) .nil),
        List.forall_mem_singleton.mpr hcomment⟩⟩, ?_, by decide, ?_⟩
    · rintro h ⟨⟩
      exact .nil
    · rintro t - - h ⟨⟩
      rfl
  have hweave : weave ["\t", "\r ", "#\"=#\x00\n ", ""] ["a", "=", "\"b"] =
      "\ta\r =#\"=#\x00\n \"b" := by
    decide
  have htokens' := tokenize_weave htokens hlayout hreplace
  exact hweave ▸ htokens'

end ScriptLexer
