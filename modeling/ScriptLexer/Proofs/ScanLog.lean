import ScriptLexer.Proofs.Layout

/-!
# The Log of a Scan

A scan reports its tokens while it cuts them, and at its end what it has cut. The log can be
told from the tokens alone: the span of the scan, for every token its events, and the summary.

The full log is that of the lowest level. A higher level leaves entries out and changes neither
the entries that stay nor the tokens: a journal takes entries in and is never asked for any.

`Seen` is an entry as a reader of the log has it, with its level, message and fields written
out, so that what is said about it does not go through the functions that make events.

## Main results

* `drain_log` — the entries of a number of steps are those of the tokens cut by them.
* `tokenizeInto_entries` — whatever a journal shows, a scan adds what it shows of the full log.
* `tokenizeInto_seen` — the full log of a script, and the log at every level.
-/

namespace ScriptLexer

namespace Log

/-- An entry of a log as it is read. -/
inductive Seen where
  /-- A span is made. -/
  | span (level : Level) (target : Target) (name : String) (fields : List (String × Value))
  /-- The span is entered. -/
  | enter
  /-- The span is left. -/
  | exit
  /-- An event. -/
  | event (level : Level) (target : Target) (message : String) (fields : List (String × Value))

/-- An entry as it is read. The span of a scan has the size of the script as its only field. -/
def Entry.seen (e : Entry) : Seen :=
  match e with
  | .span length => .span e.level e.target Entry.spanName [("len", .number length)]
  | .enter => .enter
  | .exit => .exit
  | .event what => .event e.level e.target what.message what.fields

/-- How severe an entry is. Entering and leaving a span is a matter of debugging. -/
def Seen.level : Seen → Level
  | span l _ _ _ => l
  | enter => .debug
  | exit => .debug
  | event l _ _ _ => l

/-- Whether an entry is an event with a given message. -/
def Seen.hasMessage (message : String) : Seen → Bool
  | event _ _ m _ => m == message
  | _ => false

/-- The level that is read of an entry is its own. -/
theorem Entry.level_seen (e : Entry) : e.seen.level = e.level := by
  cases e <;> rfl

end Log

open Log (Journal Entry Event Seen Level)

/-- What is read about a token: that it is malformed, exactly if it is, and the token. -/
def Token.seen (t : Token) : List Seen :=
  (if t.kind = .error then
    [.event .debug .scanning "malformed lexeme"
      [("line", .number t.line), ("lexeme", .quoted t.lexeme)]]
  else []) ++
    [.event .trace .scanning "token"
      [("kind", .plain t.kind.name), ("lexeme", .quoted t.lexeme), ("line", .number t.line)]]

/-- What is read about a scan of a script of `length` bytes with the tokens `ts` and the mark of
the end behind them. -/
def seenScan (length : ℕ) (ts : List Token) (mark : Token) : List Seen :=
  [.span .debug .scanning "tokenize_all" [("len", .number length)], .enter] ++
    ts.flatMap Token.seen ++
    [.event .debug .scanning "tokenize finished"
      [("tokens", .number (ts ++ [mark]).length),
        ("errors", .number ((ts ++ [mark]).countP Token.isError)), ("lines", .number mark.line)],
      .exit]

/-- The entries of a scan that cuts the tokens `ts`, the mark of the end apart. -/
def scanEntries (length : ℕ) (ts : List Token) (summary : Event) : List Entry :=
  [.span length, .enter] ++ ts.flatMap tokenEntries ++ [.event summary, .exit]

/-- The summary of a scan of a script with the tokens `ts` and an end on the given line. -/
def summaryOf (ts : List Token) (line : ℕ) : Event :=
  .finished (ts.length + 1) (Token.errors ts).length line

/-- The log of a script at a level. -/
def logAt (l : Level) (source : String) : List Entry :=
  (tokenizeInto (.ofLevel l) source).2.entries.toList

variable {source : String} {s : Session} {log : Journal} {ts : List Token}

/-! ### The entries of a scan -/

namespace Session

/-- The entries of a step are those of the token it cuts, if it cuts one. -/
theorem step_log (s : Session) (log : Journal) :
    ∃ ts, (s.step log).1.tokens.toList = s.tokens.toList ++ ts ∧
      (s.step log).2.shows = log.shows ∧
      (s.step log).2.entries.toList = log.entries.toList ++
        (ts.flatMap tokenEntries).filter (log.shows (some s.source.utf8ByteSize)) := by
  unfold step
  cases s.cursor.scan with
  | mk made cursor =>
      cases made with
      | none => exact ⟨[], by simp, rfl, by simp⟩
      | some t =>
          refine ⟨[t], by simp, Journal.note_shows _ _ _, ?_⟩
          rw [Journal.note_entries, List.flatMap_singleton]

/-- **The entries of a number of steps** are those of the tokens cut by them. -/
theorem drain_log (n : ℕ) (s : Session) (log : Journal) :
    ∃ ts, (drain n s log).1.tokens.toList = s.tokens.toList ++ ts ∧
      (drain n s log).2.shows = log.shows ∧
      (drain n s log).2.entries.toList = log.entries.toList ++
        (ts.flatMap tokenEntries).filter (log.shows (some s.source.utf8ByteSize)) := by
  induction n generalizing s log with
  | zero => exact ⟨[], by simp [drain], rfl, by simp [drain]⟩
  | succ n ih =>
      by_cases hs : s.cursor.rest = []
      · rw [drain, hs]
        exact ⟨[], by simp, rfl, by simp⟩
      · rw [drain_succ hs]
        obtain ⟨us, htokens, hshows, hentries⟩ := s.step_log log
        obtain ⟨vs, htokens', hshows', hentries'⟩ := ih (s.step log).1 (s.step log).2
        refine ⟨us ++ vs, ?_, hshows'.trans hshows, ?_⟩
        · rw [htokens', htokens, List.append_assoc]
        · rw [hentries', hentries, hshows, step_source, List.flatMap_append, List.filter_append,
            List.append_assoc]

/-- **The entries of a scan**: its span, those of the tokens cut by it, and the summary. -/
theorem tokenizeAll_log (s : Session) (log : Journal) :
    ∃ ts, (s.tokenizeAll log).1.tokens.toList =
        s.tokens.toList ++ ts ++ [.eof (s.tokenizeAll log).1.cursor.line] ∧
      (s.tokenizeAll log).2.entries.toList = log.entries.toList ++
        (scanEntries s.source.utf8ByteSize ts (s.tokenizeAll log).1.summary).filter
          (log.shows (some s.source.utf8ByteSize)) := by
  let opened := log.note s.source.utf8ByteSize [.span s.source.utf8ByteSize, .enter]
  have hopened : opened.shows = log.shows := Journal.note_shows _ _ _
  obtain ⟨ts, htokens, hshows, hentries⟩ := drain_log s.cursor.rest.length s opened
  refine ⟨ts, ?_, ?_⟩
  · rw [← htokens]
    exact Array.toList_push
  · rw [tokenizeAll]
    simp only
    rw [Journal.note_entries, hshows, hentries, hopened, Journal.note_entries, scanEntries,
      List.filter_append, List.filter_append, List.append_assoc, List.append_assoc,
      List.append_assoc]

end Session

/-- The tokens of a script are the same, whatever a journal shows. -/
theorem tokenizeInto_tokens (log : Journal) (source : String) :
    (tokenizeInto log source).1 = tokenize source :=
  (tokenizeInto_scans log source).unique (scans_tokenize source)

/-- **Whatever a journal shows**, a scan adds what it shows of the entries that are told from the
tokens. -/
theorem tokenizeInto_entries (log : Journal) (source : String) :
    ∃ ts line, tokenize source = ts ++ [.eof line] ∧
      (tokenizeInto log source).2.entries.toList = log.entries.toList ++
        (scanEntries source.utf8ByteSize ts (summaryOf ts line)).filter
          (log.shows (some source.utf8ByteSize)) := by
  obtain ⟨ts, htokens, hentries⟩ := Session.tokenizeAll_log (Session.start source) log
  have hsummary : ((Session.start source).tokenizeAll log).1.summary =
      summaryOf ts ((Session.start source).tokenizeAll log).1.cursor.line := by
    rw [Session.summary, ← Array.length_toList, htokens]
    simp [summaryOf, Session.start, Token.errors, Token.isError, Token.eof]
  rw [hsummary] at hentries
  exact ⟨ts, _, (tokenizeInto_tokens log source).symm.trans htokens, hentries⟩

/-! ### The entries as they are read -/

/-- The entries about a token are read as what is read about it. -/
theorem map_seen_tokenEntries (t : Token) : (tokenEntries t).map Entry.seen = t.seen := by
  by_cases ht : t.kind = .error
  · rw [tokenEntries, Token.seen, if_pos (Token.isError_iff.mpr ht), if_pos ht]
    rfl
  · rw [tokenEntries, Token.seen, if_neg (mt Token.isError_iff.mp ht), if_neg ht]
    rfl

/-- The entries of a scan are read as its full log. -/
theorem map_seen_scanEntries (length : ℕ) (ts : List Token) (line : ℕ) :
    (scanEntries length ts (summaryOf ts line)).map Entry.seen =
      seenScan length ts (.eof line) := by
  have htokens : (ts.flatMap tokenEntries).map Entry.seen = ts.flatMap Token.seen := by
    rw [List.map_flatMap]
    simp only [map_seen_tokenEntries]
  have herrors : (Token.errors ts).length = (ts ++ [Token.eof line]).countP Token.isError := by
    rw [Token.errors, List.countP_append, ← List.countP_eq_length_filter]
    rfl
  rw [scanEntries, summaryOf, seenScan, List.map_append, List.map_append, htokens, herrors,
    List.length_append]
  rfl

/-- What is read about a token says once that it is malformed, if it is. -/
theorem countP_hasMessage_seen (t : Token) :
    t.seen.countP (Seen.hasMessage "malformed lexeme") = if t.isError then 1 else 0 := by
  by_cases ht : t.kind = .error
  · rw [Token.seen, if_pos ht, if_pos (Token.isError_iff.mpr ht)]
    rfl
  · rw [Token.seen, if_neg ht, if_neg (mt Token.isError_iff.mp ht)]
    rfl

/-- There are as many events about malformed lexemes as malformed lexemes. -/
theorem countP_hasMessage_seenScan (length : ℕ) (ts : List Token) (line : ℕ) :
    (seenScan length ts (.eof line)).countP (Seen.hasMessage "malformed lexeme") =
      (ts ++ [Token.eof line]).countP Token.isError := by
  have htokens : (ts.flatMap Token.seen).countP (Seen.hasMessage "malformed lexeme") =
      ts.countP Token.isError := by
    induction ts with
    | nil => rfl
    | cons t ts ih =>
        rw [List.flatMap_cons, List.countP_append, countP_hasMessage_seen, ih, List.countP_cons,
          Nat.add_comm]
  rw [seenScan, List.countP_append, List.countP_append, htokens, List.countP_append]
  exact congrArg (· + 0) (Nat.zero_add _)

/-! ### The log at every level -/

/-- What a level shows of the full log. -/
theorem map_seen_logAt (l : Level) (source : String) :
    ∃ ts line, tokenize source = ts ++ [.eof line] ∧
      (logAt l source).map Entry.seen =
        (seenScan source.utf8ByteSize ts (.eof line)).filter (l.atLeast ·.level) := by
  obtain ⟨ts, line, htokens, hentries⟩ := tokenizeInto_entries (.ofLevel l) source
  have hshows : (Journal.ofLevel l).shows (some source.utf8ByteSize) = (l.atLeast ·.level) :=
    funext (Log.Filter.shows_ofLevel l source.utf8ByteSize)
  refine ⟨ts, line, htokens, ?_⟩
  rw [logAt, hentries, hshows, ← map_seen_scanEntries, List.filter_map]
  simp only [Function.comp_def, Entry.level_seen]
  rfl

/-- The lowest level shows everything. -/
theorem atLeast_trace (l : Level) : Level.trace.atLeast l = true := by
  cases l <;> rfl

/-- **The log agrees with the tokens.** The full log of a script is told from its tokens: the
span and its size, for every token but the mark of the end its events in order, and the summary.
There are as many events about malformed lexemes as malformed lexemes. At every level the tokens
are the same, and the log is that part of the full log which is at least as severe. -/
theorem tokenizeInto_seen (source : String) :
    ∃ ts line, tokenize source = ts ++ [.eof line] ∧ (∀ t ∈ ts, t.kind ≠ .eof) ∧
      line = 1 + source.toList.count '\n' ∧
      (logAt .trace source).map Entry.seen =
        seenScan source.utf8ByteSize ts (.eof line) ∧
      ((logAt .trace source).map Entry.seen).countP (Seen.hasMessage "malformed lexeme") =
        (tokenize source).countP Token.isError ∧
      ∀ l, (tokenizeInto (.ofLevel l) source).1 = tokenize source ∧
        (logAt l source).map Entry.seen =
          ((logAt .trace source).map Entry.seen).filter (l.atLeast ·.level) := by
  obtain ⟨ts, -, htokens, hts, -⟩ := (scans_tokenize source).exists_layout
  have hlog : ∀ l, (logAt l source).map Entry.seen =
      (seenScan source.utf8ByteSize ts (.eof (1 + source.toList.count '\n'))).filter
        (l.atLeast ·.level) := by
    intro l
    obtain ⟨us, line, hus, hlog⟩ := map_seen_logAt l source
    obtain ⟨rfl, hline⟩ := List.append_inj' (hus.symm.trans htokens) rfl
    rw [hlog, (List.cons.inj hline).1]
  have hfull : (logAt .trace source).map Entry.seen =
      seenScan source.utf8ByteSize ts (.eof (1 + source.toList.count '\n')) := by
    rw [hlog, List.filter_eq_self]
    exact fun e _ => atLeast_trace e.level
  refine ⟨ts, _, htokens, fun t ht => (hts t ht).kind_ne_eof, rfl, hfull, ?_, fun l => ?_⟩
  · rw [hfull, countP_hasMessage_seenScan, htokens]
  · exact ⟨tokenizeInto_tokens _ _, hfull ▸ hlog l⟩

end ScriptLexer
