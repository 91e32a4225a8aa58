import ScriptLexer.Proofs.LogText
import ScriptLexer.Proofs.Outcome

/-!
# The Log of a Run

The standard error of a run with options is the log, as far as it is shown, and behind it a plain
part: what went wrong, or what the options ask to be said about the tokens. The events that happen
in a run, and the plain part, come from its script and its paths alone. A filter takes events away
or shows them without the span that they lie in, and a format only writes what is left.

## Convention

An event is placed in the span of a scan, by the size of the script, or in none. `Recounts` tells
the events that happen, each as it is read, with its level, target, message and fields written
out, and what is said behind them. They are what the level `TRACE` shows; a level alone shows those
at least as severe, always in the same place. `Written` tells the text of an event.

## Main results

* `placed_scanEntries` — what the log of a scan shows, and where.
* `Filter.view_ofLevel` — a level alone takes events away and moves none.
* `exists_recounts` — the events of a run and its plain part, whatever is shown.
* `run_standardError` — the standard error of every run with the same paths and switches.
-/

namespace ScriptLexer

open Log (Entry Event Filter Format Journal Level Seen Surroundings Written placed)
open Text (Escapes InTurn)

namespace Log

variable {l l' : Level} {line : ℕ} {ts : List Token} {events : List (Event × Option ℕ)}

/-! ### What is shown of placed events -/

/-- What a filter shows of placed events: those that it lets through, in their span if it opens
that. -/
def Filter.view (f : Filter) (events : List (Event × Option ℕ)) : List (Event × Option ℕ) :=
  (events.filter fun (e, span) => f.shows span (.event e)).map fun (e, span) =>
    (e, span.filter f.opens)

/-- Whether what is read is an event. -/
def Seen.isEvent : Seen → Bool
  | event _ _ _ _ => true
  | _ => false

/-- What is shown of two logs in a row is what is shown of each. -/
theorem Filter.view_append (f : Filter) (events events' : List (Event × Option ℕ)) :
    f.view (events ++ events') = f.view events ++ f.view events' := by
  rw [view, List.filter_append, List.map_append]
  rfl

/-- A filter shows events in the order in which they happen, each once at most. -/
theorem Filter.view_sublist (f : Filter) (events : List (Event × Option ℕ)) :
    ((f.view events).map Prod.fst).Sublist (events.map Prod.fst) := by
  rw [view, List.map_map]
  exact (List.filter_sublist).map Prod.fst

/-- A level opens the span of a scan if it shows an event of debugging. -/
theorem Filter.opens_of_atLeast {e : Event} (hl : l.atLeast e.level = true)
    (he : e.level.atLeast .debug = true) (length : ℕ) : (ofLevel l).opens length = true := by
  rw [opens_ofLevel]
  exact Level.atLeast_trans hl he

/-- **A level alone** takes away the events that are less severe and shows the others where they
are, if the span of a scan has only events of debugging in it. -/
theorem Filter.view_ofLevel (l : Level)
    (hspan : ∀ x ∈ events, x.2.isSome → x.1.level.atLeast .debug = true) :
    (ofLevel l).view events = events.filter (l.atLeast ·.1.level) := by
  have hshows : ∀ x : Event × Option ℕ,
      (ofLevel l).shows x.2 (.event x.1) = l.atLeast x.1.level := by
    rintro ⟨e, _ | length⟩
    · exact shows_ofLevel_event l e
    · exact shows_ofLevel l length (.event e)
  have hplace : ∀ x ∈ events.filter (l.atLeast ·.1.level),
      (x.1, x.2.filter (ofLevel l).opens) = x := by
    rintro ⟨e, _ | length⟩ hx
    · rfl
    · obtain ⟨hmem, hl⟩ := List.mem_filter.mp hx
      rw [Option.filter_some, if_pos (opens_of_atLeast hl (hspan _ hmem rfl) length)]
  rw [view]
  simp only [hshows]
  exact (List.map_congr_left hplace).trans (List.map_id _)

/-- The levels that are at least as severe as a given one. -/
def Level.upTo : Level → List Level
  | .error => [.error]
  | .warn => [.error, .warn]
  | .info => [.error, .warn, .info]
  | .debug => [.error, .warn, .info, .debug]
  | .trace => [.error, .warn, .info, .debug, .trace]

/-- A threshold lets through the levels up to it. -/
theorem Level.atLeast_iff (l l' : Level) : l.atLeast l' = true ↔ l' ∈ l.upTo := by
  cases l <;> cases l' <;> decide

/-- The events whose levels are listed for a threshold are those that it lets through. -/
theorem filter_upTo_eq (l : Level) (events : List (Event × Option ℕ)) :
    events.filter (·.1.level ∈ l.upTo) = events.filter (l.atLeast ·.1.level) :=
  List.filter_congr fun _ _ => Bool.eq_iff_iff.mpr
    (decide_eq_true_iff.trans (Level.atLeast_iff _ _).symm)

/-- A lower threshold only puts events in between. -/
theorem filter_upTo_sublist (h : l ∈ l'.upTo) (events : List (Event × Option ℕ)) :
    (events.filter (·.1.level ∈ l.upTo)).Sublist (events.filter (·.1.level ∈ l'.upTo)) := by
  have hl : l'.atLeast l = true := (Level.atLeast_iff l' l).mpr h
  rw [filter_upTo_eq, filter_upTo_eq]
  exact List.monotone_filter_right events fun _ he => Level.atLeast_trans hl he

/-! ### The events of a scan -/

/-- The events about a token: that it is malformed, if it is, and the token. -/
def tokenEvents (t : Token) : List Event :=
  (if t.isError then [.malformed t.line t.lexeme] else []) ++ [.token t]

/-- The events of a scan that cuts the tokens `ts`, the mark of the end on the given line apart. -/
def scanEvents (ts : List Token) (line : ℕ) : List Event :=
  ts.flatMap tokenEvents ++ [summaryOf ts line]

/-- The entries about a token are its events. -/
theorem tokenEntries_eq (t : Token) : tokenEntries t = (tokenEvents t).map .event := by
  rw [tokenEntries, tokenEvents]
  split <;> rfl

/-- A scan opens its span, reports its events and leaves the span. -/
theorem scanEntries_eq (length : ℕ) (ts : List Token) (line : ℕ) :
    scanEntries length ts (summaryOf ts line) =
      [.span length, .enter] ++ (scanEvents ts line).map .event ++ [.exit] := by
  have htokens : ts.flatMap tokenEntries = (ts.flatMap tokenEvents).map .event := by
    rw [List.map_flatMap, funext tokenEntries_eq]
  rw [scanEntries, scanEvents, List.map_append, htokens]
  simp only [List.append_assoc, List.map_cons, List.map_nil, List.cons_append, List.nil_append]

/-- The events of a scan are a matter of debugging. -/
theorem atLeast_debug_of_mem_scanEvents {e : Event} (he : e ∈ scanEvents ts line) :
    e.level.atLeast .debug = true := by
  rw [scanEvents, List.mem_append, List.mem_flatMap] at he
  rcases he with ⟨t, -, he⟩ | he
  · rw [tokenEvents, List.mem_append, List.mem_singleton] at he
    rcases he with he | rfl
    · split at he
      · rw [List.mem_singleton.mp he]
        rfl
      · exact absurd he List.not_mem_nil
    · rfl
  · rw [List.mem_singleton.mp he]
    rfl

/-- Events are placed where their reader is. -/
theorem placed_map_event (s : Surroundings) (es : List Event) (entries : List Entry) :
    placed s (es.map .event ++ entries) = es.map (·, s.inside) ++ placed s entries := by
  induction es with
  | nil => rfl
  | cons e es ih => exact congrArg _ ih

/-- **What the log of a scan shows** under a filter, and where: its events in the span if the
filter opens it, and in no span what is recorded behind them. -/
theorem placed_scanEntries (f : Filter) (length : ℕ) (ts : List Token) (line : ℕ)
    (es : List Event) :
    placed .none ((scanEntries length ts (summaryOf ts line)).filter (f.shows (some length)) ++
        es.map .event) =
      f.view ((scanEvents ts line).map (·, some length)) ++ es.map (·, none) := by
  have hview : f.view ((scanEvents ts line).map (·, some length)) =
      ((scanEvents ts line).filter (f.shows (some length) <| .event ·)).map
        (·, (some length).filter f.opens) := by
    rw [Filter.view, List.filter_map, List.map_map]
    rfl
  have hes : ∀ s : Surroundings, s.inside = none →
      placed s (es.map .event) = es.map (·, none) := by
    intro s hs
    have hplaced := placed_map_event s es []
    rwa [List.append_nil, hs, placed, List.append_nil] at hplaced
  have hspan : ∀ entry ∈ [Entry.span length, .enter, .exit],
      f.shows (some length) entry = f.opens length := by
    intro entry hentry
    simp only [List.mem_cons, List.not_mem_nil, or_false] at hentry
    rcases hentry with rfl | rfl | rfl <;> rfl
  rw [hview, scanEntries_eq, List.filter_append, List.filter_append, List.filter_map,
    Option.filter_some, List.filter_cons, List.filter_cons, List.filter_cons,
    hspan _ (by simp), hspan _ (by simp), hspan _ (by simp)]
  cases hopens : f.opens length with
  | true =>
      simp only [if_true, List.filter_nil, List.append_assoc, List.cons_append, List.nil_append,
        placed, placed_map_event, Surroundings.after]
      rw [hes _ rfl]
      rfl
  | false =>
      simp only [Bool.false_eq_true, if_false, List.filter_nil, List.append_assoc,
        List.nil_append, placed_map_event]
      rw [hes _ rfl]
      rfl

end Log

/-! ### The events of a run -/

namespace Program

open CommandLine (Options)
open Files (Action Fault Tree Workspace)

/-- What is read of the events of a scan of a script of `length` bytes with the tokens `ts`: the
events of its full log, each in the span of the scan. -/
def seenEvents (length : ℕ) (ts : List Token) (mark : Token) : List (Seen × Option ℕ) :=
  ((seenScan length ts mark).filter Seen.isEvent).map (·, some length)

/-- What is read of the event that reports a failure. -/
def seenFailure (message : String) : Seen × Option ℕ :=
  (.event .error .commandLine message [], none)

/-- A text can be written at a path: it is printed, or the path leads to a file. -/
def Accepts (t : Tree) (path : String) : Prop :=
  ¬ Files.Path.IsDash path → ∃ place, t.destination path = .ok place

/-- `Blames token line`: the line says where a malformed lexeme is and what it is. -/
def Blames (token : Token) (line : String) : Prop :=
  ∃ written, Escapes.quoted.Writes token.lexeme written ∧
    line = "line " ++ toString token.line ++ ": malformed lexeme \"" ++ written ++ "\"\n"

/-- `Reports o tokens plain`: of these tokens, the counts are said if they are asked for, and in a
strict run there is a line for each malformed one, in order. -/
def Reports (o : Options) (tokens : List Token) (plain : String) : Prop :=
  ∃ lines, InTurn Blames (tokens.filter (·.kind = .error)) lines ∧
    plain =
      (if o.summary then toString tokens.length ++ " tokens, " ++
        toString (tokens.countP (·.kind = .error)) ++ " malformed\n" else "") ++
      (if o.strict then lines else "")

/-- `Recounts t o events plain`: on the tree `t`, the events of a run with the options `o` are
`events`, in order and as they are read, and behind its log it says `plain`. -/
inductive Recounts (t : Tree) (o : Options) : List (Seen × Option ℕ) → String → Prop
  | unread {cause : Fault} {message : String} : t.Unreadable o.input cause →
      message = "failed to read input file " ++ o.input ++ ": " ++ cause.message →
      Recounts t o [seenFailure message] ("Error: " ++ message ++ "\n")
  | unwritten {source : String} {ts : List Token} {line : ℕ} {cause : Fault} {message : String} :
      t.Holds o.input source → tokenize source = ts ++ [.eof line] →
      ¬ Files.Path.IsDash o.output → t.destination o.output = .error cause →
      message = "failed to write output " ++ o.output ++ ": " ++ cause.message →
      Recounts t o
        (seenEvents source.utf8ByteSize ts (.eof line) ++ [seenFailure message])
        ("Error: " ++ message ++ "\n")
  | listed {source : String} {ts : List Token} {line : ℕ} {plain : String} :
      t.Holds o.input source → tokenize source = ts ++ [.eof line] → Accepts t o.output →
      Reports o (tokenize source) plain →
      Recounts t o
        (seenEvents source.utf8ByteSize ts (.eof line) ++
          [(.event .info .transfer "wrote tokens" [("input", .plain o.input),
            ("output", .plain o.output), ("tokens", .number (ts.length + 1))], none)])
        plain

variable {t : Tree} {o : Options} {w : Workspace} {f : Filter} {source : String}
  {ts : List Token} {line : ℕ} {cause : Fault}

/-- The events of a scan are read as the events of its full log. -/
theorem map_seenIn_scanEvents (length : ℕ) (ts : List Token) (line : ℕ) :
    ((Log.scanEvents ts line).map (·, some length)).map Log.seenIn =
      seenEvents length ts (.eof line) := by
  have hall : ((Log.scanEvents ts line).map (Entry.seen ∘ .event)).filter Seen.isEvent =
      (Log.scanEvents ts line).map (Entry.seen ∘ .event) := by
    rw [List.filter_eq_self]
    intro seen hseen
    obtain ⟨e, -, rfl⟩ := List.mem_map.mp hseen
    rfl
  have hevents : (seenScan length ts (.eof line)).filter Seen.isEvent =
      (Log.scanEvents ts line).map (Entry.seen ∘ .event) := by
    rw [← map_seen_scanEntries, Log.scanEntries_eq, List.map_append, List.map_append,
      List.map_map, List.filter_append, List.filter_append, hall]
    exact List.append_nil _
  rw [seenEvents, hevents, List.map_map, List.map_map]
  rfl

/-- The entries of a scan, from the tokens of its script. -/
theorem tokenizeInto_entries_eq (htokens : tokenize source = ts ++ [.eof line]) (log : Journal) :
    (tokenizeInto log source).2.entries.toList = log.entries.toList ++
      (scanEntries source.utf8ByteSize ts (summaryOf ts line)).filter
        (log.shows (some source.utf8ByteSize)) := by
  obtain ⟨us, line', htokens', hentries⟩ := tokenizeInto_entries log source
  obtain ⟨rfl, hmark⟩ := List.append_inj' (htokens'.symm.trans htokens) rfl
  obtain rfl : line' = line := congrArg Token.line (List.cons.inj hmark).1
  exact hentries

/-- An event that is recorded in no span. -/
theorem entries_event (log : Journal) (e : Event) :
    (log.event e).entries.toList =
      log.entries.toList ++ ([e].filter (log.shows none <| .event ·)).map .event := by
  rw [Journal.event, Journal.record_entries]
  exact congrArg _ (List.filter_map (f := Entry.event) (l := [e]))

/-- What a filter shows of an event in no span. -/
theorem view_singleton (f : Filter) (e : Event) :
    f.view [(e, none)] = ([e].filter (f.shows none <| .event ·)).map (·, none) := by
  rw [Filter.view]
  cases hshows : f.shows none (.event e) <;> simp [hshows]

/-- What is shown of a run without a scan. -/
theorem placed_event (f : Filter) (e : Event) :
    placed .none ((Journal.ofFilter f).event e).entries.toList = f.view [(e, none)] := by
  rw [entries_event, view_singleton]
  have hplaced := Log.placed_map_event .none ([e].filter (f.shows none <| .event ·)) []
  rwa [List.append_nil, placed, List.append_nil] at hplaced

/-- What is shown of a scan and an event after it. -/
theorem placed_scan_event (htokens : tokenize source = ts ++ [.eof line]) (f : Filter) (e : Event) :
    placed .none ((tokenizeInto (.ofFilter f) source).2.event e).entries.toList =
      f.view ((Log.scanEvents ts line).map (·, some source.utf8ByteSize) ++ [(e, none)]) := by
  rw [entries_event, Transfer.tokenizeInto_shows, tokenizeInto_entries_eq htokens,
    Filter.view_append, view_singleton, ← Log.placed_scanEntries]
  rfl

/-! ### What is said behind the log -/

/-- The line that a strict run has for a malformed lexeme. -/
theorem blames_malformedLine (token : Token) : Blames token (malformedLine token) := by
  obtain ⟨written, hwrites, hencode⟩ := Text.Quoted.exists_writes token.lexeme
  refine ⟨written, hwrites, ?_⟩
  rw [malformedLine, hencode, ← String.toList_inj]
  simp

/-- What a run says about its tokens. -/
theorem reports_report (o : Options) (tokens : List Token) :
    Reports o tokens (report o tokens) := by
  have herrors : tokens.filter (·.kind = .error) = Token.errors tokens := by
    rw [Token.errors]
    exact List.filter_congr fun token _ => Bool.eq_iff_iff.mpr (by simp [Token.isError_iff])
  have hlines : InTurn Blames ((Token.errors tokens).map id)
      (String.join ((Token.errors tokens).map malformedLine)) :=
    .join fun token _ => blames_malformedLine token
  rw [List.map_id] at hlines
  refine ⟨_, herrors ▸ hlines, ?_⟩
  rw [List.countP_eq_length_filter, herrors]
  rfl

/-! ### What comes of a run -/

/-- A text is written where it can be. -/
theorem writeRendered_of_accepts {path : String} (h : Accepts w.files path) (text : String) :
    ((Transfer.writeRendered path text).on w).1 = .ok () := by
  have hdelivers := Transfer.writeRendered_delivers path text w
  generalize (Transfer.writeRendered path text).on w = done at hdelivers ⊢
  obtain ⟨result, after⟩ := done
  cases hdelivers with
  | print | write => rfl
  | refuse hdash hcause =>
      obtain ⟨place, hplace⟩ := h hdash
      exact nomatch hplace.symm.trans hcause

/-- A text is not written at a path that leads to no file. -/
theorem writeRendered_of_error {path : String} (hdash : ¬ Files.Path.IsDash path)
    (hcause : w.files.destination path = .error cause) (text : String) :
    ((Transfer.writeRendered path text).on w).1 = .error (.writeOutput path cause) := by
  have hdelivers := Transfer.writeRendered_delivers path text w
  generalize (Transfer.writeRendered path text).on w = done at hdelivers ⊢
  obtain ⟨result, after⟩ := done
  cases hdelivers with
  | print hdash' => exact absurd hdash' hdash
  | write _ hbecomes =>
      obtain ⟨place, hplace, -⟩ := hbecomes.node?_eq
      exact nomatch hplace.symm.trans hcause
  | refuse _ hcause' => rw [Except.error.inj (hcause.symm.trans hcause')]

/-- The outcome of a run that cannot read its script. -/
theorem outcome_unread (h : w.files.Unreadable o.input cause) (setting? : Option String) :
    ((transfer o setting?).on w).1 =
      ⟨2, o.logFormat.write ((logFilter o.logLevel setting?).view
            [(.failed (TransferError.readInput o.input cause).message, none)]) ++
          failureLine (.readInput o.input cause)⟩ := by
  rw [transfer_on, Transfer.run_on, Tree.decode_eq_error_iff.mpr ⟨cause, h, rfl⟩, ← placed_event]
  rfl

/-- The outcome of a run that cannot write its listing. -/
theorem outcome_unwritten (hholds : w.files.Holds o.input source)
    (htokens : tokenize source = ts ++ [.eof line])
    (hdash : ¬ Files.Path.IsDash o.output)
    (hcause : w.files.destination o.output = .error cause) (setting? : Option String) :
    ((transfer o setting?).on w).1 =
      ⟨2, o.logFormat.write ((logFilter o.logLevel setting?).view
            ((Log.scanEvents ts line).map (·, some source.utf8ByteSize) ++
              [(.failed (TransferError.writeOutput o.output cause).message, none)])) ++
          failureLine (.writeOutput o.output cause)⟩ := by
  rw [transfer_on, Transfer.run_on, Tree.decode_eq_ok_iff.mpr hholds, ← placed_scan_event htokens]
  simp only [writeRendered_of_error hdash hcause]
  rfl

/-- The outcome of a run that lists its script. -/
theorem outcome_listed (hholds : w.files.Holds o.input source)
    (htokens : tokenize source = ts ++ [.eof line]) (haccepts : Accepts w.files o.output)
    (setting? : Option String) :
    ((transfer o setting?).on w).1 =
      ⟨status o (tokenize source), o.logFormat.write ((logFilter o.logLevel setting?).view
            ((Log.scanEvents ts line).map (·, some source.utf8ByteSize) ++
              [(.wrote o.input o.output (tokenize source).length, none)])) ++
          report o (tokenize source)⟩ := by
  rw [transfer_on, Transfer.run_on, Tree.decode_eq_ok_iff.mpr hholds, ← placed_scan_event htokens]
  simp only [writeRendered_of_accepts haccepts, tokenizeInto_tokens]
  rfl

/-! ### All runs with the same paths and switches -/

/-- An event in the span of a scan is a matter of debugging. -/
theorem atLeast_debug_of_isSome {e : Event} {length : ℕ} {x : Event × Option ℕ}
    (hx : x ∈ (Log.scanEvents ts line).map (·, some length) ++ [(e, none)])
    (hspan : x.2.isSome = true) : x.1.level.atLeast .debug = true := by
  rcases List.mem_append.mp hx with hscan | hlast
  · obtain ⟨e', he', rfl⟩ := List.mem_map.mp hscan
    exact Log.atLeast_debug_of_mem_scanEvents he'
  · obtain rfl := List.mem_singleton.mp hlast
    cases hspan

/-- The events of a scan and one after it are read as those of the full log and that one. -/
theorem map_seenIn_append (length : ℕ) (ts : List Token) (line : ℕ) (e : Event) :
    ((Log.scanEvents ts line).map (·, some length) ++ [(e, none)]).map Log.seenIn =
      seenEvents length ts (.eof line) ++ [((Entry.event e).seen, none)] := by
  rw [List.map_append, map_seenIn_scanEvents]
  rfl

/-- **The events of a run and its plain part**, whatever level and format it has and whatever
filter is set. -/
theorem exists_recounts (t : Tree) (o : Options) :
    ∃ (events : List (Event × Option ℕ)) (plain : String),
      Recounts t o (events.map Log.seenIn) plain ∧
      (∀ x ∈ events, x.2.isSome = true → x.1.level.atLeast .debug = true) ∧
      ∀ (l : Level) (fmt : Format) (setting? : Option String),
        ((transfer { o with logLevel := l, logFormat := fmt } setting?).on
            ⟨t, ""⟩).1.standardError =
          fmt.write ((logFilter l setting?).view events) ++ plain := by
  cases hdecode : Transfer.decode o.input (t.read o.input) with
  | error e =>
      obtain ⟨cause, hcause, rfl⟩ := Tree.decode_eq_error_iff.mp hdecode
      refine ⟨[(.failed (TransferError.readInput o.input cause).message, none)],
        failureLine (.readInput o.input cause), .unread hcause rfl, ?_, ?_⟩
      · intro x hx hspan
        obtain rfl := List.mem_singleton.mp hx
        cases hspan
      · intro l fmt setting?
        exact congrArg Outcome.standardError (outcome_unread (w := ⟨t, ""⟩)
          (o := { o with logLevel := l, logFormat := fmt }) hcause setting?)
  | ok source =>
      have hholds := Tree.decode_eq_ok_iff.mp hdecode
      obtain ⟨ts, line, htokens, -⟩ := tokenizeInto_entries .silent source
      by_cases haccepts : Accepts t o.output
      · have hcount : (tokenize source).length = ts.length + 1 := by
          rw [htokens, List.length_append, List.length_singleton]
        refine ⟨(Log.scanEvents ts line).map (·, some source.utf8ByteSize) ++
            [(.wrote o.input o.output (tokenize source).length, none)],
          report o (tokenize source), ?_, fun x => atLeast_debug_of_isSome, ?_⟩
        · rw [map_seenIn_append, hcount]
          exact .listed hholds htokens haccepts (reports_report o _)
        · intro l fmt setting?
          exact congrArg Outcome.standardError (outcome_listed (w := ⟨t, ""⟩)
            (o := { o with logLevel := l, logFormat := fmt }) hholds htokens haccepts setting?)
      · obtain ⟨hdash, hplace⟩ := Classical.not_imp.mp haccepts
        cases hcause : t.destination o.output with
        | ok place => exact absurd ⟨place, hcause⟩ hplace
        | error cause =>
            refine ⟨(Log.scanEvents ts line).map (·, some source.utf8ByteSize) ++
                [(.failed (TransferError.writeOutput o.output cause).message, none)],
              failureLine (.writeOutput o.output cause), ?_, fun x => atLeast_debug_of_isSome, ?_⟩
            · rw [map_seenIn_append]
              exact .unwritten hholds htokens hdash hcause rfl
            · intro l fmt setting?
              exact congrArg Outcome.standardError (outcome_unwritten (w := ⟨t, ""⟩)
                (o := { o with logLevel := l, logFormat := fmt }) hholds htokens hdash hcause
                setting?)

/-- If a filter is set, the level of the options says nothing. -/
theorem transfer_eq_of_filter {setting? : Option String} (h : setting?.bind Filter.parse? = some f)
    (o : Options) (fmt : Format) (l l' : Level) :
    transfer { o with logLevel := l', logFormat := fmt } setting? =
      transfer { o with logLevel := l, logFormat := fmt } setting? := by
  have hconclude : conclude { o with logLevel := l', logFormat := fmt } =
      conclude { o with logLevel := l, logFormat := fmt } := by
    funext ⟨result, log⟩
    cases result <;> rfl
  simp only [transfer, logFilter, h, Option.getD_some, hconclude]

/-- **The standard error of a run** is the log as far as it is shown, as its format writes it, and
behind that a plain part. The events that happen and the plain part are the same for all runs with
these paths and switches, whatever their level, format and filter. Unless a filter is set that can
be read, those events are shown that are at least as severe as the level, so a lower level only
puts events in between; and if one is set, the level says nothing. The log is the only text that
the shown events are written as, each with its level, message and fields and with the span that it
is in. -/
theorem run_standardError (t : Tree) (o : Options) :
    ∃ (events : List (Event × Option ℕ)) (plain : String),
      Recounts t o (events.map Log.seenIn) plain ∧
      (∀ l l' : Level, l ∈ l'.upTo →
        (events.filter (·.1.level ∈ l.upTo)).Sublist (events.filter (·.1.level ∈ l'.upTo))) ∧
      ∀ (arguments : List String) (l : Level) (fmt : Format) (setting? : Option String),
        CommandLine.parse arguments = .ok (.run { o with logLevel := l, logFormat := fmt }) →
        ∃ shown log,
          (runOn arguments setting? t).1.standardError = log ++ plain ∧
          (∀ text, InTurn (Written fmt) (shown.map Log.seenIn) text ↔ text = log) ∧
          (shown.map Prod.fst).Sublist (events.map Prod.fst) ∧
          (setting?.bind Filter.parse? = none → shown = events.filter (·.1.level ∈ l.upTo)) ∧
          ∀ f, setting?.bind Filter.parse? = some f → shown = f.view events ∧
            ∀ (arguments' : List String) (l' : Level),
              CommandLine.parse arguments' =
                .ok (.run { o with logLevel := l', logFormat := fmt }) →
              runOn arguments' setting? t = runOn arguments setting? t := by
  obtain ⟨events, plain, hrecounts, hspan, herror⟩ := exists_recounts t o
  refine ⟨events, plain, hrecounts, fun l l' h => Log.filter_upTo_sublist h events, ?_⟩
  intro arguments l fmt setting? hparse
  refine ⟨(logFilter l setting?).view events, _, ?_, Log.inTurn_written_iff fmt _,
    Filter.view_sublist _ _, ?_, ?_⟩
  · rw [runOn_of_options hparse]
    exact herror l fmt setting?
  · intro hunset
    rw [logFilter, hunset, Log.filter_upTo_eq]
    exact Filter.view_ofLevel l hspan
  · intro f hset
    refine ⟨by rw [logFilter, hset]; rfl, ?_⟩
    intro arguments' l' hparse'
    rw [runOn_of_options hparse, runOn_of_options hparse', transfer_eq_of_filter hset o fmt l l']

/-- The log of a strict run on a malformed script: all of it, a part of it in another format, and
the part that a filter shows whatever the level. -/
theorem run_standardError_strict :
    (∃ (events : List (Event × Option ℕ)) (full part plain : String),
      InTurn (Written .compact) ((events.filter (·.1.level ∈ Level.trace.upTo)).map Log.seenIn)
          full ∧
        (runOn ["--strict", "-oout", "--log-level=trace", "in"] none
          malformedTree).1.standardError = full ++ plain ∧
        full ++ plain =
          "TRACE tokenize_all: token kind=identifier lexeme=\"x\" line=1 len=6\n" ++
          "TRACE tokenize_all: token kind== lexeme=\"=\" line=1 len=6\n" ++
          "DEBUG tokenize_all: malformed lexeme line=1 lexeme=\"§\" len=6\n" ++
          "TRACE tokenize_all: token kind=error lexeme=\"§\" line=1 len=6\n" ++
          "DEBUG tokenize_all: tokenize finished tokens=4 errors=1 lines=1 len=6\n" ++
          " INFO wrote tokens input=in output=out tokens=4\n" ++
          "line 1: malformed lexeme \"§\"\n" ∧
        InTurn (Written .json) ((events.filter (·.1.level ∈ Level.debug.upTo)).map Log.seenIn)
          part ∧
        (runOn ["in", "-oout", "--log-level", "4", "--log-format=json", "--strict"] none
          malformedTree).1.standardError = part ++ plain ∧
        part ++ plain =
          "\x7b\"level\":\"DEBUG\",\"fields\":\x7b\"message\":\"malformed lexeme\"," ++
          "\"line\":1,\"lexeme\":\"§\"\x7d,\"target\":\"rblex::lexer\"," ++
          "\"span\":\x7b\"len\":6,\"name\":\"tokenize_all\"\x7d," ++
          "\"spans\":[\x7b\"len\":6,\"name\":\"tokenize_all\"\x7d]\x7d\n" ++
          "\x7b\"level\":\"DEBUG\",\"fields\":\x7b\"message\":\"tokenize finished\"," ++
          "\"tokens\":4,\"errors\":1,\"lines\":1\x7d,\"target\":\"rblex::lexer\"," ++
          "\"span\":\x7b\"len\":6,\"name\":\"tokenize_all\"\x7d," ++
          "\"spans\":[\x7b\"len\":6,\"name\":\"tokenize_all\"\x7d]\x7d\n" ++
          "\x7b\"level\":\"INFO\",\"fields\":\x7b\"message\":\"wrote tokens\",\"input\":\"in\"," ++
          "\"output\":\"out\",\"tokens\":4\x7d,\"target\":\"rblex::io\"\x7d\n" ++
          "line 1: malformed lexeme \"§\"\n") ∧
      runOn ["--strict", "-oout", "in"] (some "debug") malformedTree =
        runOn ["--strict", "-oout", "--log-level=trace", "in"] (some "debug") malformedTree := by
  obtain ⟨events, plain, -, -, hruns⟩ :=
    run_standardError malformedTree ⟨"in", "out", .warn, .compact, false, true⟩
  obtain ⟨shown, full, hfull, hwritten, -, hall, -⟩ := hruns
    ["--strict", "-oout", "--log-level=trace", "in"] .trace .compact none rfl
  obtain ⟨shown', part, hpart, hwritten', -, hsome, -⟩ := hruns
    ["in", "-oout", "--log-level", "4", "--log-format=json", "--strict"] .debug .json none rfl
  obtain ⟨_, _, -, -, -, -, hset⟩ := hruns
    ["--strict", "-oout", "--log-level=trace", "in"] .trace .compact (some "debug") rfl
  obtain rfl := hall rfl
  obtain rfl := hsome rfl
  refine ⟨⟨events, full, part, plain, (hwritten _).mpr rfl, hfull, ?_, (hwritten' _).mpr rfl,
    hpart, ?_⟩, ?_⟩
  · exact hfull.symm.trans (by decide +kernel)
  · exact hpart.symm.trans (by decide +kernel)
  · exact (hset (.ofLevel .debug) (by decide +kernel)).2 ["--strict", "-oout", "in"] .warn rfl

end Program

end ScriptLexer
