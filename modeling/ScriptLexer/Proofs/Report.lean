import ScriptLexer.Proofs.Listing
import ScriptLexer.Proofs.RunLog

/-!
# The Report of a Run

A strict run that counts tokens says first how many tokens and malformed lexemes there are, and
then has a line for each malformed lexeme. If no log is shown, that is all that stands on the
standard error. The lexeme of a string that does not close is any text up to the end of the
script, line ends and quotes included; in quotes it stands on one line all the same, and no other
text has the same quotes around it.

## Main results

* `Text.Quoted.encode_injective` — a quoted text determines the text.
* `malformedText_unique` — a line about a malformed lexeme determines line and lexeme.
* `outcome_quiet` — what a run comes to that shows no log.
* `standardError_lines` — the report, line by line, and what can be told from it.
-/

namespace ScriptLexer

open Grammar (Breaks breaks_cons)

namespace Text

variable {c c' : Char} {w w' r r' : List Char} {m n : ℕ}

/-! ### Hexadecimal numbers -/

/-- The last digit of a number, and the digits before it. -/
theorem hexadecimal_eq (n : ℕ) : hexadecimal n =
    (if n < 16 then [] else hexadecimal (n / 16)) ++ [Nat.digitChar (n % 16)] := by
  by_cases hsmall : n < 16
  · rw [if_pos hsmall, hexadecimal, Nat.toDigits_of_lt_base hsmall, Nat.mod_eq_of_lt hsmall]
    rfl
  · rw [if_neg hsmall, hexadecimal, Nat.toDigits_of_base_le (by decide) (Nat.not_lt.mp hsmall)]
    rfl

/-- A number is told from its digits, by induction from the last one on. -/
theorem hexadecimal_injective (h : hexadecimal m = hexadecimal n) : m = n := by
  have hdigit : ∀ d < 16, ∀ e < 16, Nat.digitChar d = Nat.digitChar e → d = e := by decide
  induction m using Nat.strongRecOn generalizing n with
  | _ m ih =>
      rw [hexadecimal_eq m, hexadecimal_eq n] at h
      obtain ⟨hfront, hlast⟩ := List.append_inj' h rfl
      have hmod := hdigit _ (Nat.mod_lt m (by decide)) _ (Nat.mod_lt n (by decide))
        (List.cons.inj hlast).1
      by_cases hm : m < 16 <;> by_cases hn : n < 16
      · omega
      · rw [if_pos hm, if_neg hn] at hfront
        exact absurd hfront.symm Nat.toDigits_ne_nil
      · rw [if_neg hm, if_pos hn] at hfront
        exact absurd hfront Nat.toDigits_ne_nil
      · rw [if_neg hm, if_neg hn] at hfront
        have hfloor := ih (m / 16) (by omega) hfront
        omega

/-- A number in front of a closing brace is read off from the left. -/
theorem hexadecimal_append_unique (h : hexadecimal m ++ '}' :: r = hexadecimal n ++ '}' :: r') :
    m = n ∧ r = r' := by
  have hbrace : ∀ d < 16, (Nat.digitChar d != '}') = true := by decide
  have hdigits : ∀ k : ℕ, ∀ c ∈ hexadecimal k, (c != '}') = true := by
    intro k c hc
    obtain ⟨d, hd, rfl⟩ := Quoted.exists_digit_of_mem_hexadecimal hc
    exact hbrace d hd
  obtain ⟨hrun, hrest⟩ := run_unique (hdigits m) (hdigits n) (breaks_cons.mpr (by decide))
    (breaks_cons.mpr (by decide)) h
  exact ⟨hexadecimal_injective hrun, (List.cons.inj hrest).2⟩

/-! ### Quoted texts -/

namespace Escapes

/-- What is written for a character of a quoted text is read off from the left. -/
theorem quoted_append_unique (h : quoted.Spells c w) (h' : quoted.Spells c' w')
    (hsame : w ++ r = w' ++ r') : c = c' ∧ r = r' := by
  have hletter : ∀ x ∈ quoted.letters, ∀ y ∈ quoted.letters, x.2 = y.2 → x.1 = y.1 := by decide
  have hnumber : ∀ x ∈ quoted.letters, x.2 ≠ 'u' := by decide
  have hbackslash : '\\' ∈ quoted.letters.map Prod.fst := by decide
  have hcode : ∀ (n : ℕ) (s : List Char),
      quoted.code n ++ s = 'u' :: '\x7b' :: (hexadecimal n ++ '\x7d' :: s) :=
    fun n s => congrArg (['u', '\x7b'] ++ ·) (List.append_assoc (hexadecimal n) ['\x7d'] s)
  cases h with
  | letter hl =>
      cases h' with
      | letter hl' =>
          obtain ⟨hsecond, hrest⟩ := List.cons.inj (List.cons.inj hsame).2
          exact ⟨hletter _ hl _ hl' hsecond, hrest⟩
      | code => exact absurd (List.cons.inj (List.cons.inj hsame).2).1 (hnumber _ hl)
      | plain hnone => exact absurd ((List.cons.inj hsame).1 ▸ hbackslash) hnone
  | code =>
      cases h' with
      | letter hl' => exact absurd (List.cons.inj (List.cons.inj hsame).2).1.symm (hnumber _ hl')
      | code =>
          rw [List.cons_append, List.cons_append, hcode, hcode] at hsame
          obtain ⟨hnumbers, hrest⟩ := hexadecimal_append_unique
            (List.cons.inj (List.cons.inj (List.cons.inj hsame).2).2).2
          exact ⟨Char.toNat_inj.mp hnumbers, hrest⟩
      | plain hnone => exact absurd ((List.cons.inj hsame).1 ▸ hbackslash) hnone
  | plain hnone =>
      cases h' with
      | letter | code => exact absurd ((List.cons.inj hsame).1 ▸ hbackslash) hnone
      | plain => exact List.cons.inj hsame

/-- Something is written for every character. -/
theorem Spells.ne_nil {E : Escapes} (h : E.Spells c w) : w ≠ [] := by
  cases h <;> exact List.cons_ne_nil _ _

/-- Texts that are written with the same characters are the same, by induction on the first. -/
theorem quoted_flatten_unique {u v : List Char} {us vs : List (List Char)}
    (hu : List.Forall₂ quoted.Spells u us) (hv : List.Forall₂ quoted.Spells v vs)
    (hsame : us.flatten = vs.flatten) : u = v := by
  induction hu generalizing v vs with
  | nil =>
      cases hv with
      | nil => rfl
      | cons hspells => exact absurd (List.append_eq_nil_iff.mp hsame.symm).1 hspells.ne_nil
  | cons hspells _ ih =>
      cases hv with
      | nil => exact absurd (List.append_eq_nil_iff.mp hsame).1 hspells.ne_nil
      | cons hspells' hrest' =>
          obtain ⟨rfl, hrest⟩ := quoted_append_unique hspells hspells' hsame
          rw [ih hrest' hrest]

end Escapes

/-- **A quoted text determines the text.** -/
theorem Quoted.encode_injective {text text' : String} (h : encode text = encode text') :
    text = text' := by
  obtain ⟨written, ⟨ws, hws, hflat⟩, hencode⟩ := exists_writes text
  obtain ⟨written', ⟨ws', hws', hflat'⟩, hencode'⟩ := exists_writes text'
  have hwritten : written.toList = written'.toList := by
    rw [hencode, hencode', ← String.toList_inj] at h
    simpa using h
  exact String.toList_injective
    (Escapes.quoted_flatten_unique hws hws' (hflat.symm.trans (hwritten.trans hflat')))

end Text

/-! ### Lines -/

/-- Lines that are each ended by a separator are the parts of their text, and nothing stands
behind the last one. -/
theorem Text.parts_flatMap {separator : Char} {lines : List (List Char)}
    (h : ∀ line ∈ lines, separator ∉ line) :
    parts separator (lines.flatMap (· ++ [separator])) = lines ++ [[]] := by
  induction lines with
  | nil => rfl
  | cons line lines ih =>
      have hrest := ih fun l hl => h l (List.mem_cons_of_mem _ hl)
      rw [List.flatMap_cons, List.append_assoc, List.singleton_append,
        parts_append_cons (h line List.mem_cons_self), hrest, List.cons_append]

namespace Program

open CommandLine (Options)
open Files (Tree)
open Log (Level)

variable {arguments : List String} {t : Tree} {o : Options} {source : String} {token token' : Token}

/-- The words about a malformed lexeme. -/
def malformedText (token : Token) : String :=
  "line " ++ toString token.line ++ ": malformed lexeme " ++ Text.Quoted.encode token.lexeme

/-- The lines of a report: the counts, and one line for each malformed lexeme. -/
def reportLines (tokens : List Token) : List String :=
  (toString tokens.length ++ " tokens, " ++ toString (Token.errors tokens).length ++
    " malformed") :: (Token.errors tokens).map malformedText

/-- No line ends within a decimal number. -/
theorem lineFeed_notMem_toDigits (n : ℕ) : '\n' ∉ Nat.toDigits 10 n := fun h =>
  absurd (isDigit_of_mem_toDigits h) (by decide)

/-- A line about a malformed lexeme stands on one line, whatever the lexeme is. -/
theorem lineFeed_notMem_malformedText (token : Token) : '\n' ∉ (malformedText token).toList := by
  have hline := lineFeed_notMem_toDigits token.line
  have hlexeme := Text.Quoted.lineFeed_notMem_encode token.lexeme
  simp [malformedText, hline, hlexeme]

/-- **A line about a malformed lexeme** determines line and lexeme. -/
theorem malformedText_unique (h : malformedText token = malformedText token') :
    token.line = token'.line ∧ token.lexeme = token'.lexeme := by
  have htext : ∀ token : Token, (malformedText token).toList = "line ".toList ++
      (Nat.toDigits 10 token.line ++ (':' :: " malformed lexeme ".toList ++
        (Text.Quoted.encode token.lexeme).toList)) := by
    intro token
    simp [malformedText]
  have hchars := congrArg String.toList h
  rw [htext, htext, List.append_cancel_left_eq] at hchars
  obtain ⟨hline, hrest⟩ := toDigits_append_unique (breaks_cons.mpr (by decide))
    (breaks_cons.mpr (by decide)) hchars
  exact ⟨hline, Text.Quoted.encode_injective
    (String.toList_injective (List.append_cancel_left (List.cons.inj hrest).2))⟩

/-- No line ends within a line of a report, whatever the lexemes hold. -/
theorem lineFeed_notMem_reportLines {tokens : List Token} {line : List Char}
    (h : line ∈ (reportLines tokens).map String.toList) : '\n' ∉ line := by
  obtain ⟨text, htext, rfl⟩ := List.mem_map.mp h
  rcases List.mem_cons.mp htext with rfl | hmalformed
  · simp [lineFeed_notMem_toDigits]
  · obtain ⟨token, -, rfl⟩ := List.mem_map.mp hmalformed
    exact lineFeed_notMem_malformedText token

/-- A report with counts on a strict run is its lines, each ended by a line feed. -/
theorem toList_report (hsummary : o.summary = true) (hstrict : o.strict = true)
    (tokens : List Token) :
    (report o tokens).toList =
      ((reportLines tokens).map String.toList).flatMap (· ++ ['\n']) := by
  have hlines : (Token.errors tokens).map malformedLine =
      (Token.errors tokens).map fun token => malformedText token ++ "\n" := rfl
  rw [report, if_pos hsummary, if_pos hstrict, hlines]
  simp [countLine, reportLines, String.toList_join, List.flatMap_map, Function.comp_def]

/-- Reports with the same lines are about the same malformed lexemes. -/
theorem errors_unique {tokens tokens' : List Token} (h : reportLines tokens = reportLines tokens') :
    (Token.errors tokens).map (fun token => (token.line, token.lexeme)) =
      (Token.errors tokens').map fun token => (token.line, token.lexeme) := by
  have hmalformed := (List.cons.inj h).2
  generalize Token.errors tokens = errors at hmalformed ⊢
  generalize Token.errors tokens' = errors' at hmalformed ⊢
  induction errors generalizing errors' with
  | nil => rw [List.map_eq_nil_iff.mp hmalformed.symm]
  | cons token errors ih =>
      cases errors' with
      | nil => cases hmalformed
      | cons token' errors' =>
          obtain ⟨htext, hrest⟩ := List.cons.inj hmalformed
          obtain ⟨hline, hlexeme⟩ := malformedText_unique htext
          rw [List.map_cons, List.map_cons, hline, hlexeme, ih _ hrest]

/-! ### Runs without a log -/

/-- `Counts arguments t source`: on the tree `t`, the arguments ask for a strict run with counts and
the usual level, the script that it reads is `source`, and its listing can be written. -/
inductive Counts (arguments : List String) (t : Tree) (source : String) : Prop
  | intro {o : Options} : CommandLine.parse arguments = .ok (.run o) → o.summary = true →
      o.strict = true → o.logLevel = Options.default.logLevel → t.Holds o.input source →
      Accepts t o.output → Counts arguments t source

/-- **A run that lists its script at a level that hides information** shows no log. -/
theorem outcome_quiet (hholds : t.Holds o.input source) (haccepts : Accepts t o.output)
    (hlevel : o.logLevel.atLeast .info = false) :
    ((transfer o none).on ⟨t, ""⟩).1 =
      ⟨status o (tokenize source), report o (tokenize source)⟩ := by
  obtain ⟨ts, line, htokens, -⟩ := tokenizeInto_entries .silent source
  have hhidden : ∀ x ∈ (Log.scanEvents ts line).map (·, some source.utf8ByteSize) ++
      [(.wrote o.input o.output (tokenize source).length, none)],
      ¬ o.logLevel.atLeast x.1.level = true := by
    intro x hx hshown
    rcases List.mem_append.mp hx with hscan | hwrote
    · obtain ⟨e, he, rfl⟩ := List.mem_map.mp hscan
      have hdebug := Level.atLeast_trans hshown (Log.atLeast_debug_of_mem_scanEvents he)
      exact Bool.false_ne_true (hlevel.symm.trans (Level.atLeast_trans hdebug (by decide)))
    · obtain rfl := List.mem_singleton.mp hwrote
      exact Bool.false_ne_true (hlevel.symm.trans hshown)
  have hshown : (logFilter o.logLevel none).view
      ((Log.scanEvents ts line).map (·, some source.utf8ByteSize) ++
        [(.wrote o.input o.output (tokenize source).length, none)]) = [] :=
    (Log.Filter.view_ofLevel o.logLevel fun _ => atLeast_debug_of_isSome).trans
      (List.filter_eq_nil_iff.mpr hhidden)
  rw [outcome_listed (w := ⟨t, ""⟩) hholds htokens haccepts none, hshown]
  exact congrArg (Outcome.mk _) String.empty_append

/-- The outcome of a run that counts. -/
theorem Counts.outcome_eq (h : Counts arguments t source) :
    ∃ o : Options, o.summary = true ∧ o.strict = true ∧
      (runOn arguments none t).1 = ⟨status o (tokenize source), report o (tokenize source)⟩ := by
  obtain ⟨hparse, hsummary, hstrict, hlevel, hholds, haccepts⟩ := h
  refine ⟨_, hsummary, hstrict, ?_⟩
  rw [runOn_of_options hparse]
  exact outcome_quiet hholds haccepts (by rw [hlevel]; rfl)

/-- The standard error of a run that counts is its report, line by line. -/
theorem Counts.parts_eq (h : Counts arguments t source) :
    Text.parts '\n' (runOn arguments none t).1.standardError.toList =
      (reportLines (tokenize source)).map String.toList ++ [[]] := by
  obtain ⟨o, hsummary, hstrict, houtcome⟩ := h.outcome_eq
  rw [houtcome, toList_report hsummary hstrict]
  exact Text.parts_flatMap fun _ => lineFeed_notMem_reportLines

/-- **The report of a run** is all that stands on its standard error: the counts, then a line for
each malformed lexeme in the order of the script, and as many line ends as lines, whatever is in
the lexemes. The run exits with 1 exactly if there is a malformed lexeme. Runs with the same report
have the same malformed lexemes on the same lines. -/
theorem standardError_lines (h : Counts arguments t source) :
    Text.parts '\n' (runOn arguments none t).1.standardError.toList =
        (reportLines (tokenize source)).map String.toList ++ [[]] ∧
      (runOn arguments none t).1.standardError.toList.count '\n' =
        (Token.errors (tokenize source)).length + 1 ∧
      (0 < (Token.errors (tokenize source)).length ↔ (runOn arguments none t).1.exit = 1) ∧
      ∀ (arguments' : List String) (t' : Tree) (source' : String), Counts arguments' t' source' →
        (runOn arguments' none t').1.standardError = (runOn arguments none t).1.standardError →
        (Token.errors (tokenize source')).map (fun token => (token.line, token.lexeme)) =
          (Token.errors (tokenize source)).map fun token => (token.line, token.lexeme) := by
  refine ⟨h.parts_eq, ?_, ?_, ?_⟩
  · have hcount := Text.parts_length '\n' (runOn arguments none t).1.standardError.toList
    rw [h.parts_eq, List.length_append, List.length_map, reportLines, List.length_cons,
      List.length_map] at hcount
    exact (Nat.succ.inj hcount).symm
  · obtain ⟨o, -, hstrict, houtcome⟩ := h.outcome_eq
    rw [houtcome, List.length_pos_iff]
    simp only [status, hstrict, true_and]
    by_cases herrors : Token.errors (tokenize source) = [] <;> simp [herrors]
  · intro arguments' t' source' h' hsame
    have hparts := h'.parts_eq
    rw [hsame, h.parts_eq] at hparts
    have hlines := List.append_cancel_right hparts
    exact (errors_unique (List.map_injective_iff.mpr (fun _ _ => String.toList_injective)
      hlines)).symm

/-- A script with a stray character and a string that does not close, in which a line of a report
seems to stand. -/
def reportLike : String :=
  "$ \"\nline 1: malformed lexeme \\\"$"

/-- The report on such a script: three lines and exit status 1. -/
theorem standardError_lines_reportLike :
    (runOn ["--strict", "in", "--summary"] none
        ⟨[(["in"], .file reportLike.toUTF8)]⟩).1.standardError.toList.count '\n' = 3 ∧
      (runOn ["--strict", "in", "--summary"] none ⟨[(["in"], .file reportLike.toUTF8)]⟩).1.exit =
        1 := by
  have hcounts : Counts ["--strict", "in", "--summary"] ⟨[(["in"], .file reportLike.toUTF8)]⟩
      reportLike :=
    .intro (o := ⟨"in", "output.txt", .warn, .compact, true, true⟩) rfl rfl rfl rfl rfl
      fun _ => ⟨["output.txt"], rfl⟩
  have herrors : (Token.errors (tokenize reportLike)).length = 2 := by decide +kernel
  obtain ⟨-, hlines, hexit, -⟩ := standardError_lines hcounts
  rw [herrors] at hlines hexit
  exact ⟨hlines, hexit.mp (by decide)⟩

end Program

end ScriptLexer
