import ScriptLexer.Files.Tree

/-!
# Actions

What a program does with files and its standard output, as a value: it reads a file and goes on
with what came of it, writes a file and goes on, or prints. An action is carried out on a
workspace, which is a file tree and the text printed so far; the same action can be carried out
on the files of the machine.

## Main results

* `on_bind` — one action after the other works on what the first one left behind.
-/

namespace ScriptLexer.Files

/-- Reading, writing and printing that ends in a value. -/
inductive Action (α : Type) where
  /-- Nothing more is done. -/
  | done (value : α)
  /-- The file at a path is read. -/
  | read (path : String) (next : Except Fault ByteArray → Action α)
  /-- The file at a path is given a content. -/
  | write (path : String) (content : ByteArray) (next : Except Fault Unit → Action α)
  /-- A text goes to the standard output. -/
  | print (text : String) (next : Action α)

/-- The files that a program works on, and what it has printed so far. -/
structure Workspace where
  /-- The files below the working directory. -/
  files : Tree
  /-- The text printed so far. -/
  printed : String

namespace Action

variable {α β : Type}

/-- Does one action, then the one that its value says. -/
def bind : Action α → (α → Action β) → Action β
  | done value, f => f value
  | read path next, f => read path fun result => (next result).bind f
  | write path content next, f => write path content fun result => (next result).bind f
  | print text next, f => print text (next.bind f)

instance : Monad Action where
  pure := done
  bind := bind

/-- Carries an action out on a workspace. -/
def on : Action α → Workspace → α × Workspace
  | done value, w => (value, w)
  | read path next, w => (next (w.files.read path)).on w
  | write path content next, w =>
    match w.files.write path content with
    | .ok files => (next (.ok ())).on { w with files := files }
    | .error fault => (next (.error fault)).on w
  | print text next, w => next.on { w with printed := w.printed ++ text }

/-! ### Laws -/

/-- One action after the other works on what the first one left behind. -/
theorem on_bind (a : Action α) (f : α → Action β) (w : Workspace) :
    (a >>= f).on w = (f (a.on w).1).on (a.on w).2 := by
  show (a.bind f).on w = _
  induction a generalizing w with
  | done value => rfl
  | read path next ih => exact ih _ w
  | write path content next ih =>
      simp only [bind, on]
      cases w.files.write path content with
      | ok files => exact ih _ _
      | error fault => exact ih _ _
  | print text next ih => exact ih _

end Action

end ScriptLexer.Files
