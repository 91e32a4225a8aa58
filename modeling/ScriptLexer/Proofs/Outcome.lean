import ScriptLexer.Program
import ScriptLexer.Proofs.TransferHistory

/-!
# How the Program Ends

A run of the program ends in one of three ways. It fails, because the command line is wrong, the
script cannot be read or the listing cannot be written, and then leaves everything as it was and
prints nothing. It informs about itself, if it is asked for help or its version, and touches no
file. Or it lists: the listing of the script is printed if the output is `-`, and else is all that
the file at the output path then holds. Which of the three it is depends on the command line and
the files alone.

## Convention

The script is what the file at the input path holds before the run. It may be the file that the
listing is written to.

## Main results

* `Ends.unique` — no run ends in two ways.
* `transfer_cases` — how a run with options ends.
* `Ends.listed_of_exit` — the status 1 is that of a run that has listed its script.
* `run_eq_of_log` — a log has no influence on a transfer.
* `run_ends` — a run ends in exactly one way, and options that say nothing about paths change at
  most its exit status.
-/

namespace ScriptLexer.Program

open CommandLine (Options Request)
open Files (Action Fault Tree Workspace)
open Log (Journal)

/-- The ways in which a run can end. -/
inductive Ending where
  /-- Nothing could be listed. -/
  | failed
  /-- The program has told about itself. -/
  | informed
  /-- A script was listed. -/
  | listed
  deriving DecidableEq

/-- `Fails arguments t`: the command line is wrong, or on the tree `t` the script cannot be read,
or its listing cannot be written. -/
inductive Fails (arguments : List String) (t : Tree) : Prop
  | usage {e : CommandLine.UsageError} :
      CommandLine.parse arguments = .error e → Fails arguments t
  | unreadable {o : Options} {cause : Fault} :
      CommandLine.parse arguments = .ok (.run o) → t.Unreadable o.input cause → Fails arguments t
  | unwritable {o : Options} {cause : Fault} :
      CommandLine.parse arguments = .ok (.run o) → ¬ Files.Path.IsDash o.output →
      t.destination o.output = .error cause → Fails arguments t

/-- `Outputs t path text after`: a text was printed if the path is `-`, and else nothing was
printed and the text was written to the file at the path. -/
def Outputs (t : Tree) (path text : String) (after : Workspace) : Prop :=
  if Files.Path.IsDash path then after = ⟨t, text⟩
  else after.printed = "" ∧ t.Becomes path text after.files

/-- `Ends arguments t done e`: a run that came to `done` on the tree `t` and an empty output has
ended in the way `e`. -/
def Ends (arguments : List String) (t : Tree) (done : Outcome × Workspace) : Ending → Prop
  | .failed => Fails arguments t ∧ done.1.exit = 2 ∧ done.2 = ⟨t, ""⟩
  | .informed =>
    (∃ request, CommandLine.parse arguments = .ok request ∧
      (request = .help ∨ request = .fullHelp ∨ request = .version)) ∧
      done.1.exit = 0 ∧ done.2.files = t
  | .listed =>
    ∃ o source, CommandLine.parse arguments = .ok (.run o) ∧ t.Holds o.input source ∧
      Outputs t o.output (listing source) done.2 ∧
      done.1.exit = if o.strict ∧ ∃ token ∈ tokenize source, token.kind = .error then 1 else 0

/-- What a run comes to on a tree of files and an empty output. -/
def runOn (arguments : List String) (setting? : Option String) (t : Tree) : Outcome × Workspace :=
  (run arguments setting?).on ⟨t, ""⟩

variable {arguments : List String} {t : Tree} {done : Outcome × Workspace} {after : Workspace}
  {e e' : Ending} {o : Options}

/-! ### No run ends in two ways -/

/-- A text that is output to a file has a place to go to. -/
theorem Outputs.destination_ne_error {path text : String} (h : Outputs t path text after)
    (hdash : ¬ Files.Path.IsDash path) (cause : Fault) :
    t.destination path ≠ .error cause := by
  rw [Outputs, if_neg hdash] at h
  obtain ⟨place, hplace, -⟩ := h.2.node?_eq
  rw [hplace]
  exact nofun

/-- A run that only informs has not failed. -/
theorem not_fails_of_informed (h : Ends arguments t done .informed) :
    ¬ Fails arguments t := by
  obtain ⟨⟨request, hparse, hrequest⟩, -, -⟩ := h
  rintro (hparse' | ⟨hparse', -⟩ | ⟨hparse', -, -⟩)
  · exact nomatch hparse.symm.trans hparse'
  all_goals
    obtain rfl := Except.ok.inj (hparse.symm.trans hparse')
    simp at hrequest

/-- A run whose listing is written has not failed. -/
theorem not_fails_of_listed (h : Ends arguments t done .listed) :
    ¬ Fails arguments t := by
  obtain ⟨o, source, hparse, hholds, houtputs, -⟩ := h
  rintro (hparse' | ⟨hparse', hcause⟩ | ⟨hparse', hdash, hcause⟩)
  · exact nomatch hparse.symm.trans hparse'
  · obtain rfl := Request.run.inj (Except.ok.inj (hparse.symm.trans hparse'))
    exact hholds.not_unreadable _ hcause
  · obtain rfl := Request.run.inj (Except.ok.inj (hparse.symm.trans hparse'))
    exact houtputs.destination_ne_error hdash _ hcause

/-- A run that only informs writes no listing. -/
theorem not_listed_of_informed (h : Ends arguments t done .informed) :
    ¬ Ends arguments t done .listed := by
  obtain ⟨⟨request, hparse, hrequest⟩, -, -⟩ := h
  rintro ⟨o, source, hparse', -⟩
  obtain rfl := Except.ok.inj (hparse.symm.trans hparse')
  simp at hrequest

/-- **No run ends in two ways.** -/
theorem Ends.unique (h : Ends arguments t done e)
    (h' : Ends arguments t done e') : e = e' := by
  cases e <;> cases e'
  case failed.failed | informed.informed | listed.listed => rfl
  case failed.informed => exact absurd h.1 (not_fails_of_informed h')
  case failed.listed => exact absurd h.1 (not_fails_of_listed h')
  case informed.failed => exact absurd h'.1 (not_fails_of_informed h)
  case informed.listed => exact absurd h' (not_listed_of_informed h)
  case listed.failed => exact absurd h'.1 (not_fails_of_listed h)
  case listed.informed => exact absurd h (not_listed_of_informed h')

/-! ### A run with options -/

/-- The exit status is 1 exactly for a strict run with a malformed lexeme, and 0 for any other. -/
theorem status_eq (o : Options) (tokens : List Token) :
    status o tokens = if o.strict ∧ ∃ t ∈ tokens, t.kind = .error then 1 else 0 := by
  have herrors : Token.errors tokens ≠ [] ↔ ∃ t ∈ tokens, t.kind = .error := by
    rw [Token.errors, Ne, List.filter_eq_nil_iff]
    simp only [Token.isError_iff, not_forall, not_not, exists_prop]
  simp only [status, herrors]

/-- A listing that was delivered on an empty output is what the run outputs. -/
theorem outputs_of_delivers {path text : String}
    (h : Transfer.Delivers path text ⟨t, ""⟩ (.ok ()) after) : Outputs t path text after := by
  rw [Outputs]
  cases h with
  | print hdash => rw [if_pos hdash, String.empty_append]
  | write hdash hbecomes =>
      rw [if_neg hdash]
      exact ⟨rfl, hbecomes⟩

/-- **A run with options** fails without a trace, or outputs the listing of its script. -/
theorem transfer_cases (o : Options) (setting? : Option String) (t : Tree) :
    (∃ cause, (t.Unreadable o.input cause ∨
          ¬ Files.Path.IsDash o.output ∧ t.destination o.output = .error cause) ∧
        ((transfer o setting?).on ⟨t, ""⟩).1.exit = 2 ∧
        ((transfer o setting?).on ⟨t, ""⟩).2 = ⟨t, ""⟩) ∨
      ∃ source, t.Holds o.input source ∧
        Outputs t o.output (listing source) ((transfer o setting?).on ⟨t, ""⟩).2 ∧
        ((transfer o setting?).on ⟨t, ""⟩).1.exit = status o (tokenize source) := by
  obtain ⟨reported, hevolves, -⟩ := Transfer.run_evolves o.input o.output
    (Journal.ofFilter (logFilter o.logLevel setting?)) ⟨t, ""⟩
  rw [transfer_on]
  generalize Action.opened _ _ = opened at hevolves
  generalize (Transfer.run o.input o.output
    (Journal.ofFilter (logFilter o.logLevel setting?))).on ⟨t, ""⟩ = done at hevolves ⊢
  obtain ⟨⟨result, log⟩, after⟩ := done
  cases hevolves with
  | run hread hwrite =>
      cases hread with | read hholds =>
      cases hwrite with | write hdelivers =>
      exact .inr ⟨_, hholds, outputs_of_delivers hdelivers, rfl⟩
  | runUnread hread =>
      cases hread with | unread hcause =>
      exact .inl ⟨_, .inl hcause, rfl, rfl⟩
  | runUnwritten hread hwrite =>
      cases hwrite with | write hdelivers =>
      cases hdelivers with | refuse hdash hcause =>
      exact .inl ⟨_, .inr ⟨hdash, hcause⟩, rfl, rfl⟩

/-! ### What the log changes -/

/-- What a transfer comes to and what it leaves do not depend on its log. -/
theorem run_eq_of_log (input output : String) (log log' : Journal) (w : Workspace) :
    ((Transfer.run input output log).on w).1.1 = ((Transfer.run input output log').on w).1.1 ∧
      ((Transfer.run input output log).on w).2 = ((Transfer.run input output log').on w).2 := by
  simp only [Transfer.run_on, tokenizeInto_tokens]
  cases Transfer.decode input (w.files.read input) with
  | error e => exact ⟨rfl, rfl⟩
  | ok source =>
      simp only
      cases ((Transfer.writeRendered output (Token.renderAll (tokenize source))).on w).1 <;>
        exact ⟨rfl, rfl⟩

/-- With the same paths, other options do not change what is left. -/
theorem transfer_workspace_eq {o' : Options} (hinput : o'.input = o.input)
    (houtput : o'.output = o.output) (setting? setting'? : Option String) (w : Workspace) :
    ((transfer o' setting'?).on w).2 = ((transfer o setting?).on w).2 := by
  rw [transfer_on, transfer_on, hinput, houtput]
  exact (run_eq_of_log ..).2

/-- With the same paths, a strict run has the exit status of any other, or 1 instead of 0. -/
theorem transfer_exit_eq_or {o' : Options} (hinput : o'.input = o.input)
    (houtput : o'.output = o.output) (hstrict : o.strict = true → o'.strict = true)
    (setting? setting'? : Option String) (w : Workspace) :
    ((transfer o' setting'?).on w).1.exit = ((transfer o setting?).on w).1.exit ∨
      (o.strict = false ∧ o'.strict = true) ∧ ((transfer o setting?).on w).1.exit = 0 ∧
        ((transfer o' setting'?).on w).1.exit = 1 := by
  rw [transfer_on, transfer_on, hinput, houtput]
  have hresult := (run_eq_of_log o.input o.output
    (Journal.ofFilter (logFilter o'.logLevel setting'?))
    (Journal.ofFilter (logFilter o.logLevel setting?)) w).1
  generalize (Transfer.run o.input o.output
    (Journal.ofFilter (logFilter o'.logLevel setting'?))).on w = done' at hresult ⊢
  generalize (Transfer.run o.input o.output
    (Journal.ofFilter (logFilter o.logLevel setting?))).on w = done at hresult ⊢
  obtain ⟨⟨result, log⟩, after⟩ := done
  obtain ⟨⟨result', log'⟩, after'⟩ := done'
  obtain rfl : result' = result := hresult
  cases result' with
  | error e => exact .inl rfl
  | ok tokens =>
      simp only [conclude, status]
      cases hso : o.strict with
      | true => simp [hstrict hso]
      | false =>
          cases hso' : o'.strict with
          | false => simp
          | true => by_cases herrors : Token.errors tokens = [] <;> simp [herrors]

/-! ### All runs -/

/-- Arguments that are read as options make the run transfer its script with them. -/
theorem runOn_of_options (h : CommandLine.parse arguments = .ok (.run o))
    (setting? : Option String) (t : Tree) :
    runOn arguments setting? t = (transfer o setting?).on ⟨t, ""⟩ := by
  rw [runOn, run, h]

/-- The status 1 is that of a run that has listed its script. -/
theorem Ends.listed_of_exit (h : Ends arguments t done e) (hexit : done.1.exit = 1) :
    e = .listed := by
  cases e with
  | failed => exact absurd (h.2.1.symm.trans hexit) (by decide)
  | informed => exact absurd (h.2.1.symm.trans hexit) (by decide)
  | listed => rfl

/-- Every run ends in some way. -/
theorem exists_ends (arguments : List String) (setting? : Option String) (t : Tree) :
    ∃ e, Ends arguments t (runOn arguments setting? t) e := by
  have hinforms : ∀ request text, CommandLine.parse arguments = .ok request →
      (request = .help ∨ request = .fullHelp ∨ request = .version) →
      run arguments setting? = .print text (.done ⟨0, ""⟩) →
      ∃ e, Ends arguments t (runOn arguments setting? t) e := by
    intro request text hparse hrequest hrun
    refine ⟨.informed, ⟨request, hparse, hrequest⟩, ?_, ?_⟩ <;> rw [runOn, hrun] <;> rfl
  cases hparse : CommandLine.parse arguments with
  | error e =>
      refine ⟨.failed, .usage hparse, ?_, ?_⟩ <;> rw [runOn, run_of_usageError hparse]
  | ok request =>
      cases request with
      | help => exact hinforms .help _ hparse (.inl rfl) (by rw [run, hparse])
      | fullHelp => exact hinforms .fullHelp _ hparse (.inr (.inl rfl)) (by rw [run, hparse])
      | version => exact hinforms .version _ hparse (.inr (.inr rfl)) (by rw [run, hparse])
      | run o =>
          have hrun := runOn_of_options hparse setting? t
          obtain ⟨cause, hcause, hexit, hafter⟩ | ⟨source, hholds, houtputs, hexit⟩ :=
            transfer_cases o setting? t
          · have hfails : Fails arguments t :=
              hcause.elim (.unreadable hparse) fun h => .unwritable hparse h.1 h.2
            exact ⟨.failed, hfails, by rw [hrun, hexit], by rw [hrun, hafter]⟩
          · rw [status_eq] at hexit
            exact ⟨.listed, o, source, hparse, hholds, by rwa [hrun], by rw [hrun, hexit]⟩

/-- **A run ends in exactly one way**, and options that say nothing about paths have no influence
on the files or the output: at most a run that has listed its script exits with 1 instead of 0,
because it is strict. -/
theorem run_ends (arguments : List String) (setting? : Option String) (t : Tree) :
    (∃! e, Ends arguments t (runOn arguments setting? t) e) ∧
    ∀ (arguments' : List String) (setting'? : Option String) (o o' : Options),
      CommandLine.parse arguments = .ok (.run o) → CommandLine.parse arguments' = .ok (.run o') →
      o'.input = o.input → o'.output = o.output →
      (runOn arguments' setting'? t).2 = (runOn arguments setting? t).2 ∧
      ((o.strict = true → o'.strict = true) →
        (runOn arguments' setting'? t).1.exit = (runOn arguments setting? t).1.exit ∨
        (o.strict = false ∧ o'.strict = true) ∧ (runOn arguments setting? t).1.exit = 0 ∧
          (runOn arguments' setting'? t).1.exit = 1 ∧
          Ends arguments' t (runOn arguments' setting'? t) .listed) := by
  refine ⟨?_, ?_⟩
  · obtain ⟨e, he⟩ := exists_ends arguments setting? t
    exact ⟨e, he, fun e' he' => Ends.unique he' he⟩
  · intro arguments' setting'? o o' hparse hparse' hinput houtput
    obtain ⟨e, he⟩ := exists_ends arguments' setting'? t
    have hlisted : (runOn arguments' setting'? t).1.exit = 1 →
        Ends arguments' t (runOn arguments' setting'? t) .listed :=
      fun hexit => he.listed_of_exit hexit ▸ he
    rw [runOn_of_options hparse, runOn_of_options hparse'] at *
    refine ⟨transfer_workspace_eq hinput houtput setting? setting'? _, fun hstrict => ?_⟩
    obtain hsame | ⟨hmore, hzero, hone⟩ :=
      transfer_exit_eq_or hinput houtput hstrict setting? setting'? ⟨t, ""⟩
    · exact .inl hsame
    · exact .inr ⟨hmore, hzero, hone, hlisted hone⟩

/-- A tree whose only file has a malformed lexeme. -/
def malformedTree : Tree :=
  ⟨[(["in"], .file "x = §".toUTF8)]⟩

/-- A strict run with a log writes what any other writes, and exits with 1 instead of 0. -/
theorem run_ends_strict :
    (runOn ["--strict", "-o", "out", "in"] (some "trace") malformedTree).2 =
        (runOn ["-oout", "in", "--summary"] none malformedTree).2 ∧
      (runOn ["-oout", "in", "--summary"] none malformedTree).1.exit = 0 ∧
      (runOn ["--strict", "-o", "out", "in"] (some "trace") malformedTree).1.exit = 1 := by
  obtain ⟨hsame, hexit⟩ := (run_ends ["-oout", "in", "--summary"] none malformedTree).2
    ["--strict", "-o", "out", "in"] (some "trace") ⟨"in", "out", .warn, .compact, true, false⟩
    ⟨"in", "out", .warn, .compact, false, true⟩ rfl rfl rfl rfl
  obtain hequal | ⟨-, hzero, hone, -⟩ := hexit fun _ => rfl
  · exact absurd hequal (by decide +kernel)
  · exact ⟨hsame, hzero, hone⟩

end ScriptLexer.Program
