import ScriptLexer.Proofs.ScanLog
import ScriptLexer.Proofs.Storage

/-!
# Histories of Transfers

Reading a script, writing a text and doing both in a run, one after the other and in any order,
on one tree of files. `Evolves` says what each step may do to the workspace, in terms of what the
files hold and not of how a step goes about it: reading changes nothing, a step that fails changes
nothing, a text that is written is what its file then holds, and a run is the reading of its input
and the writing of the listing. Nothing is said about the paths of a step being different, so it
holds of a run that overwrites its own input as of any other.

## Ledgers

Two ledgers are kept beside the steps. The first has the paths that were opened for writing,
whether that succeeded or not: a run that cannot read its input opens nothing. The second has the
events that report a listing as written: one for every run that succeeds and none for any other
step. What a journal shows of the second is what it shows of all events that happen in no span.

## Main results

* `writeRendered_delivers` — writing a text prints it, or makes a file hold it, or changes nothing.
* `Evolves.unique` — a step comes to one thing only.
* `Step.act_evolves` — what a step does, whatever the files are.
* `Step.actAll_evolves` — what any number of steps do, and what is opened and reported by them.
-/

namespace ScriptLexer

open Files (Action Fault Tree Workspace)
open Log (Entry Event Journal Seen)

namespace Files.Action

variable {α β : Type}

/-- The paths of the files that an action opens for writing, in order, on a workspace. -/
def opened : Action α → Workspace → List String
  | done _, _ => []
  | read path next, w => (next (w.files.read path)).opened w
  | write path content next, w =>
    path :: match w.files.write path content with
      | .ok files => (next (.ok ())).opened { w with files := files }
      | .error fault => (next (.error fault)).opened w
  | print text next, w => next.opened { w with printed := w.printed ++ text }

/-- An action that does nothing opens no file. -/
@[simp] theorem opened_pure (value : α) (w : Workspace) :
    (pure value : Action α).opened w = [] := rfl

/-- One action after the other opens what the first one opens, then what the second one opens on
the workspace left behind. -/
theorem opened_bind (a : Action α) (f : α → Action β) (w : Workspace) :
    (a >>= f).opened w = a.opened w ++ (f (a.on w).1).opened (a.on w).2 := by
  change (a.bind f).opened w = _
  induction a generalizing w with
  | done value => rfl
  | read path next ih => exact ih _ w
  | write path content next ih =>
      simp only [bind, opened, on, List.cons_append]
      cases w.files.write path content with
      | ok files => exact congrArg _ (ih _ _)
      | error fault => exact congrArg _ (ih _ _)
  | print text next ih => exact ih _

end Files.Action

namespace Transfer

/-! ### Writing a text -/

/-- `Delivers path text w result after`: what may come of writing a text. The path `-` has it
printed; with any other path, the file then holds it, or the path leads to no file. -/
inductive Delivers (path text : String) (w : Workspace) :
    Except TransferError Unit → Workspace → Prop
  | print : Files.Path.IsDash path →
      Delivers path text w (.ok ()) { w with printed := w.printed ++ text }
  | write {after : Tree} : ¬ Files.Path.IsDash path → w.files.Becomes path text after →
      Delivers path text w (.ok ()) { w with files := after }
  | refuse {cause : Fault} : ¬ Files.Path.IsDash path →
      w.files.destination path = .error cause →
      Delivers path text w (.error (.writeOutput path cause)) w

variable {path text input output source : String} {w after : Workspace} {log : Journal}

/-- **Writing a text** prints it, or makes a file hold it, or changes nothing. -/
theorem writeRendered_delivers (path text : String) (w : Workspace) :
    Delivers path text w ((writeRendered path text).on w).1 ((writeRendered path text).on w).2 := by
  rw [writeRendered]
  by_cases hdash : Files.Path.IsDash path
  · rw [if_pos (Files.Path.isDash_iff.mpr hdash)]
    exact .print hdash
  · rw [if_neg (mt Files.Path.isDash_iff.mp hdash)]
    simp only [Action.on]
    cases hwrite : w.files.write path text.toUTF8 with
    | ok files => exact .write hdash (Tree.becomes_of_write hwrite)
    | error cause => exact .refuse hdash (Tree.write_eq_error_iff.mp hwrite)

/-- Writing a text opens its path, unless that is `-`. -/
theorem writeRendered_opened (path text : String) (w : Workspace) :
    (writeRendered path text).opened w = if Files.Path.IsDash path then [] else [path] := by
  rw [writeRendered]
  simp only [Files.Path.isDash_iff]
  split
  · rfl
  · rw [Action.opened]
    cases w.files.write path text.toUTF8 <;> rfl

/-- What fails to be written leaves everything as it was. -/
theorem Delivers.eq_of_error {e : TransferError} (h : Delivers path text w (.error e) after) :
    after = w := by
  cases h
  rfl

/-! ### Steps -/

/-- A step of a history. -/
inductive Step where
  /-- A script is read. -/
  | readSource (path : String)
  /-- A text is written. -/
  | writeRendered (path text : String)
  /-- A script is read and its listing is written. -/
  | run (input output : String)

/-- What came of a step. -/
inductive Answer where
  | source (result : Except TransferError String)
  | written (result : Except TransferError Unit)
  | tokens (result : Except TransferError (List Token))

/-- Does a step. What it records goes to a journal. -/
def Step.act (log : Journal) : Step → Action (Answer × Journal)
  | readSource path => do return (.source (← Transfer.readSource path), log)
  | writeRendered path text => do return (.written (← Transfer.writeRendered path text), log)
  | run input output => do
    let (result, log) ← Transfer.run input output log
    return (.tokens result, log)

/-- Does steps one after the other. -/
def Step.actAll (log : Journal) : List Step → Action (List Answer × Journal)
  | [] => return ([], log)
  | step :: steps => do
    let (answer, log) ← step.act log
    let (answers, log) ← actAll log steps
    return (answer :: answers, log)

/-- `Evolves w step answer opened reported after`: what a step may make of a workspace. -/
inductive Evolves :
    Workspace → Step → Answer → List String → List Event → Workspace → Prop
  | read {w : Workspace} {path text : String} :
      w.files.Holds path text →
      Evolves w (.readSource path) (.source (.ok text)) [] [] w
  | unread {w : Workspace} {path : String} {cause : Fault} :
      w.files.Unreadable path cause →
      Evolves w (.readSource path) (.source (.error (.readInput path cause))) [] [] w
  | write {w after : Workspace} {path text : String} {result : Except TransferError Unit} :
      Delivers path text w result after →
      Evolves w (.writeRendered path text) (.written result)
        (if Files.Path.IsDash path then [] else [path]) [] after
  | run {w after : Workspace} {input output source : String} {opened : List String} :
      Evolves w (.readSource input) (.source (.ok source)) [] [] w →
      Evolves w (.writeRendered output (listing source)) (.written (.ok ())) opened [] after →
      Evolves w (.run input output) (.tokens (.ok (tokenize source))) opened
        [.wrote input output (tokenize source).length] after
  | runUnread {w : Workspace} {input output : String} {e : TransferError} :
      Evolves w (.readSource input) (.source (.error e)) [] [] w →
      Evolves w (.run input output) (.tokens (.error e)) [] [] w
  | runUnwritten {w : Workspace} {input output source : String} {opened : List String}
      {e : TransferError} :
      Evolves w (.readSource input) (.source (.ok source)) [] [] w →
      Evolves w (.writeRendered output (listing source)) (.written (.error e)) opened [] w →
      Evolves w (.run input output) (.tokens (.error e)) opened [] w

/-- `EvolvesAll w steps answers opened reported after`: what a number of steps may make of a
workspace, each of them from where the one before left it. -/
inductive EvolvesAll :
    Workspace → List Step → List Answer → List String → List Event → Workspace → Prop
  | nil {w : Workspace} : EvolvesAll w [] [] [] [] w
  | cons {w mid after : Workspace} {step : Step} {answer : Answer} {steps : List Step}
      {answers : List Answer} {opened opened' : List String} {reported reported' : List Event} :
      Evolves w step answer opened reported mid →
      EvolvesAll mid steps answers opened' reported' after →
      EvolvesAll w (step :: steps) (answer :: answers) (opened ++ opened')
        (reported ++ reported') after

/-! ### What a step comes to -/

/-- `Alike w w'`: at every place of two workspaces there is the same, and the same was printed. -/
structure Alike (w w' : Workspace) : Prop where
  node?_eq : ∀ place, w.files.node? place = w'.files.node? place
  printed_eq : w.printed = w'.printed

/-- A workspace is like itself. -/
theorem Alike.refl (w : Workspace) : Alike w w :=
  ⟨fun _ => rfl, rfl⟩

variable {step : Step} {answer answer' : Answer} {opened opened' : List String}
  {reported reported' : List Event} {after' : Workspace}

/-- Writing a text comes to one thing only. -/
theorem Delivers.unique {result result' : Except TransferError Unit}
    (h : Delivers path text w result after) (h' : Delivers path text w result' after') :
    result = result' ∧ Alike after after' := by
  cases h with
  | print hdash =>
      cases h' with
      | print => exact ⟨rfl, .refl _⟩
      | write hdash' | refuse hdash' => exact absurd hdash hdash'
  | write hdash hbecomes =>
      obtain ⟨place, hplace, hnodes⟩ := hbecomes.node?_eq
      cases h' with
      | print hdash' => exact absurd hdash' hdash
      | write _ hbecomes' =>
          obtain ⟨place', hplace', hnodes'⟩ := hbecomes'.node?_eq
          obtain rfl := Except.ok.inj (hplace.symm.trans hplace')
          exact ⟨rfl, fun other => (hnodes other).trans (hnodes' other).symm, rfl⟩
      | refuse _ hcause => exact nomatch hplace.symm.trans hcause
  | refuse hdash hcause =>
      cases h' with
      | print hdash' => exact absurd hdash' hdash
      | write _ hbecomes =>
          obtain ⟨place, hplace, -⟩ := hbecomes.node?_eq
          exact nomatch hplace.symm.trans hcause
      | refuse _ hcause' =>
          obtain rfl := Except.error.inj (hcause.symm.trans hcause')
          exact ⟨rfl, .refl _⟩

/-- **A step comes to one thing only**: its answer, what it opens and reports and what it leaves
are determined by what the files hold. -/
theorem Evolves.unique (h : Evolves w step answer opened reported after)
    (h' : Evolves w step answer' opened' reported' after') :
    answer = answer' ∧ opened = opened' ∧ reported = reported' ∧ Alike after after' := by
  -- by induction, the reading and the writing of a run come to one thing
  induction h generalizing answer' opened' reported' after' with
  | read hholds =>
      cases h' with
      | read hholds' => exact ⟨by rw [hholds.unique hholds'], rfl, rfl, .refl _⟩
      | unread hcause => exact absurd hcause (hholds.not_unreadable _)
  | unread hcause =>
      cases h' with
      | read hholds => exact absurd hcause (hholds.not_unreadable _)
      | unread hcause' => exact ⟨by rw [hcause.unique hcause'], rfl, rfl, .refl _⟩
  | write hdelivers =>
      cases h' with
      | write hdelivers' =>
          obtain ⟨rfl, halike⟩ := hdelivers.unique hdelivers'
          exact ⟨rfl, rfl, rfl, halike⟩
  | run _ _ ihread ihwrite =>
      cases h' with
      | run hread' hwrite' =>
          obtain ⟨⟨⟩, -⟩ := ihread hread'
          obtain ⟨-, rfl, -, halike⟩ := ihwrite hwrite'
          exact ⟨rfl, rfl, rfl, halike⟩
      | runUnread hread' => exact nomatch (ihread hread').1
      | runUnwritten hread' hwrite' =>
          obtain ⟨⟨⟩, -⟩ := ihread hread'
          exact nomatch (ihwrite hwrite').1
  | runUnread _ ihread =>
      cases h' with
      | run hread' => exact nomatch (ihread hread').1
      | runUnread hread' =>
          obtain ⟨⟨⟩, -⟩ := ihread hread'
          exact ⟨rfl, rfl, rfl, .refl _⟩
      | runUnwritten hread' => exact nomatch (ihread hread').1
  | runUnwritten _ _ ihread ihwrite =>
      cases h' with
      | run hread' hwrite' =>
          obtain ⟨⟨⟩, -⟩ := ihread hread'
          exact nomatch (ihwrite hwrite').1
      | runUnread hread' => exact nomatch (ihread hread').1
      | runUnwritten hread' hwrite' =>
          obtain ⟨⟨⟩, -⟩ := ihread hread'
          obtain ⟨⟨⟩, rfl, -⟩ := ihwrite hwrite'
          exact ⟨rfl, rfl, rfl, .refl _⟩

/-! ### What is reported -/

/-- The entries of a journal that report a listing as written. -/
def writtenIn (log : Journal) : List Entry :=
  log.entries.toList.filter (·.seen.hasMessage "wrote tokens")

/-- An event is read with the message it is recorded with. -/
theorem hasMessage_event (e : Event) (message : String) :
    (Entry.event e).seen.hasMessage message = (e.message == message) := rfl

/-- No entry of a scan reports a listing as written. -/
theorem not_hasMessage_scanEntries {length line : ℕ} {ts : List Token} {e : Entry}
    (he : e ∈ scanEntries length ts (summaryOf ts line)) :
    e.seen.hasMessage "wrote tokens" = false := by
  rw [scanEntries, List.mem_append, List.mem_append, List.mem_flatMap] at he
  rcases he with (he | ⟨t, -, he⟩) | he
  · simp only [List.mem_cons, List.not_mem_nil, or_false] at he
    rcases he with rfl | rfl <;> rfl
  · have hevent : e = .event (.malformed t.line t.lexeme) ∨ e = .event (.token t) := by
      rw [tokenEntries, List.mem_append, List.mem_singleton] at he
      refine he.imp_left fun he => ?_
      split at he
      · exact List.mem_singleton.mp he
      · exact absurd he List.not_mem_nil
    rcases hevent with rfl | rfl <;> rw [hasMessage_event] <;> rfl
  · simp only [List.mem_cons, List.not_mem_nil, or_false] at he
    rcases he with rfl | rfl <;> rfl

/-- A scan does not change what a journal shows. -/
theorem tokenizeInto_shows (log : Journal) (source : String) :
    (tokenizeInto log source).2.shows = log.shows := by
  obtain ⟨-, -, hshows, -⟩ := Session.drain_log source.toList.length (Session.start source)
    (log.note source.utf8ByteSize [.span source.utf8ByteSize, .enter])
  exact (Journal.note_shows _ _ _).trans (hshows.trans (Journal.note_shows _ _ _))

/-- A scan reports no listing as written. -/
theorem writtenIn_tokenizeInto (log : Journal) (source : String) :
    writtenIn (tokenizeInto log source).2 = writtenIn log := by
  obtain ⟨ts, line, -, hentries⟩ := tokenizeInto_entries log source
  have hnone : ∀ e ∈ (scanEntries source.utf8ByteSize ts (summaryOf ts line)).filter
      (log.shows (some source.utf8ByteSize)), ¬ e.seen.hasMessage "wrote tokens" = true :=
    fun e he => Bool.eq_false_iff.mp (not_hasMessage_scanEntries (List.mem_of_mem_filter he))
  rw [writtenIn, hentries, List.filter_append, List.filter_eq_nil_iff.mpr hnone, List.append_nil,
    writtenIn]

/-- A journal takes a report that a listing was written if it shows that. -/
theorem writtenIn_wrote (log : Journal) (input output : String) (count : ℕ) :
    writtenIn (log.event (.wrote input output count)) =
      writtenIn log ++ [.event (.wrote input output count)].filter (log.shows none) := by
  rw [writtenIn, Journal.event, Journal.record_entries, List.filter_append, writtenIn]
  congr 1
  rw [List.filter_eq_self]
  intro e he
  rw [List.mem_singleton.mp (List.mem_of_mem_filter he)]
  rfl

/-- `Reports log reported after`: the journal `after` is `log` with some events reported, as far
as it shows them. -/
structure Reports (log : Journal) (reported : List Event) (after : Journal) : Prop where
  shows_eq : after.shows = log.shows
  writtenIn_eq : writtenIn after =
    writtenIn log ++ (reported.map Entry.event).filter (log.shows none)

/-- With nothing reported a journal stays as it is. -/
theorem Reports.nil (log : Journal) : Reports log [] log :=
  ⟨rfl, (List.append_nil _).symm⟩

/-- What is reported in two parts is reported in a row. -/
theorem Reports.append {mid after : Journal} {reported reported' : List Event}
    (h : Reports log reported mid) (h' : Reports mid reported' after) :
    Reports log (reported ++ reported') after := by
  refine ⟨h'.shows_eq.trans h.shows_eq, ?_⟩
  rw [h'.writtenIn_eq, h.writtenIn_eq, h.shows_eq, List.map_append, List.filter_append,
    List.append_assoc]

/-- A scan reports no listing as written. -/
theorem reports_tokenizeInto (log : Journal) (source : String) :
    Reports log [] (tokenizeInto log source).2 :=
  ⟨tokenizeInto_shows log source,
    (writtenIn_tokenizeInto log source).trans (List.append_nil _).symm⟩

/-- The event about a written listing is reported. -/
theorem reports_wrote (log : Journal) (input output : String) (count : ℕ) :
    Reports log [.wrote input output count] (log.event (.wrote input output count)) :=
  ⟨Journal.record_shows _ _ _, writtenIn_wrote log input output count⟩

/-! ### One step -/

/-- A run opens no file if its script cannot be read, and otherwise what writing its listing
opens. -/
theorem run_opened (input output : String) (log : Journal) (w : Workspace) :
    (run input output log).opened w =
      match decode input (w.files.read input) with
      | .error _ => []
      | .ok source => (writeRendered output (listing source)).opened w := by
  rw [run, Action.opened_bind, readSource_on]
  cases decode input (w.files.read input) with
  | error e => rfl
  | ok source =>
      simp only
      rw [Action.opened_bind, tokenizeInto_tokens, listing]
      cases ((writeRendered output (Token.renderAll (tokenize source))).on w).1 with
      | error e => exact List.append_nil _
      | ok _ => exact List.append_nil _

/-- To read a script opens no file, reports nothing and leaves the workspace as it is. -/
theorem readSource_evolves (path : String) (w : Workspace) :
    Evolves w (.readSource path) (.source (decode path (w.files.read path))) [] [] w := by
  cases hread : decode path (w.files.read path) with
  | ok text => exact .read (Tree.decode_eq_ok_iff.mp hread)
  | error e =>
      obtain ⟨cause, hcause, rfl⟩ := Tree.decode_eq_error_iff.mp hread
      exact .unread hcause

/-- To write a text opens at most its own file and reports nothing. -/
theorem writeRendered_evolves (path text : String) (w : Workspace) :
    Evolves w (.writeRendered path text) (.written ((writeRendered path text).on w).1)
      ((writeRendered path text).opened w) [] ((writeRendered path text).on w).2 := by
  rw [writeRendered_opened]
  exact .write (writeRendered_delivers path text w)

/-- **A run** is the reading of its input and the writing of the listing, and reports that the
listing was written exactly if it succeeds. -/
theorem run_evolves (input output : String) (log : Journal) (w : Workspace) :
    ∃ reported,
      Evolves w (.run input output) (.tokens ((run input output log).on w).1.1)
        ((run input output log).opened w) reported ((run input output log).on w).2 ∧
      Reports log reported ((run input output log).on w).1.2 := by
  rw [run_on, run_opened]
  have hread := readSource_evolves input w
  cases hdecode : decode input (w.files.read input) with
  | error e =>
      rw [hdecode] at hread
      exact ⟨[], .runUnread hread, .nil log⟩
  | ok source =>
      rw [hdecode] at hread
      have hwrite := writeRendered_evolves output (listing source) w
      have hdelivers := writeRendered_delivers output (listing source) w
      have hscan := reports_tokenizeInto log source
      have hlisting : Token.renderAll (tokenize source) = listing source := rfl
      simp only [tokenizeInto_tokens, hlisting]
      generalize (writeRendered output (listing source)).on w = written at *
      obtain ⟨result, after⟩ := written
      cases result with
      | error e =>
          obtain rfl := hdelivers.eq_of_error
          exact ⟨[], .runUnwritten hread hwrite, hscan⟩
      | ok _ =>
          exact ⟨_, .run hread hwrite, hscan.append (reports_wrote _ input output _)⟩

/-- **One step**, whatever the files are. -/
theorem Step.act_evolves (step : Step) (log : Journal) (w : Workspace) :
    ∃ reported,
      Evolves w step ((step.act log).on w).1.1 ((step.act log).opened w) reported
        ((step.act log).on w).2 ∧
      Reports log reported ((step.act log).on w).1.2 := by
  cases step with
  | readSource path => exact ⟨[], readSource_evolves path w, .nil log⟩
  | writeRendered path text =>
      rw [act, Action.on_bind, Action.opened_bind, Action.opened_pure, List.append_nil]
      exact ⟨[], writeRendered_evolves path text w, .nil log⟩
  | run input output =>
      rw [act, Action.on_bind, Action.opened_bind, Action.opened_pure, List.append_nil]
      exact run_evolves input output log w

/-! ### All steps -/

/-- **Any number of steps**, on whatever files: each of them evolves the workspace from where the
one before left it, its paths are opened and its event is reported. The induction is on the steps,
from any workspace and any journal on. -/
theorem Step.actAll_evolves (steps : List Step) (log : Journal) (w : Workspace) :
    ∃ reported,
      EvolvesAll w steps ((actAll log steps).on w).1.1 ((actAll log steps).opened w) reported
        ((actAll log steps).on w).2 ∧
      Reports log reported ((actAll log steps).on w).1.2 := by
  induction steps generalizing log w with
  | nil => exact ⟨[], .nil, .nil log⟩
  | cons step steps ih =>
      obtain ⟨reported, hstep, hreports⟩ := step.act_evolves log w
      obtain ⟨reported', hsteps, hreports'⟩ := ih ((step.act log).on w).1.2 ((step.act log).on w).2
      refine ⟨reported ++ reported', ?_⟩
      rw [actAll, Action.on_bind, Action.opened_bind, Action.on_bind, Action.opened_bind,
        Action.opened_pure, List.append_nil]
      exact ⟨.cons hstep hsteps, hreports.append hreports'⟩

end Transfer

end ScriptLexer
