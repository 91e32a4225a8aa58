import ScriptLexer.Cursor
import ScriptLexer.Log.Journal

/-!
# Sessions

A session scans one script and holds the tokens that it has cut so far. Scanning runs to the
end of the script and closes the tokens with a mark of the end; scanning again from there adds
another such mark. What happens on the way is recorded in a journal.

## Main results

* `drain_rest` — as many steps as characters remain bring a session to the end of its script.
* `tokenizeAll_of_rest_nil` — a scan that starts there only adds a mark of the end.
-/

namespace ScriptLexer

open Log (Journal Event Entry)

/-- A script that is being scanned, how far the scan has come and the tokens held. -/
structure Session where
  /-- The script. -/
  source : String
  /-- How far the scan has come. -/
  cursor : Cursor
  /-- The tokens held, in the order of the script. -/
  tokens : Array Token

/-- What is recorded about a token: its lexeme if that is malformed, then the token. -/
def tokenEntries (t : Token) : List Entry :=
  (if t.isError then [.event (.malformed t.line t.lexeme)] else []) ++ [.event (.token t)]

namespace Session

/-- The session at the beginning of a script. -/
def start (source : String) : Session :=
  ⟨source, .ofSource source, #[]⟩

/-- Reads one item and holds the token that it makes, if it makes one. -/
def step (s : Session) (log : Journal) : Session × Journal :=
  match s.cursor.scan with
  | (some t, cursor) =>
    ({ s with cursor := cursor, tokens := s.tokens.push t },
      log.note s.source.utf8ByteSize (tokenEntries t))
  | (none, cursor) => ({ s with cursor := cursor }, log)

/-- Reads a number of items, or fewer if the script ends before. -/
def drain : Nat → Session → Journal → Session × Journal
  | 0, s, log => (s, log)
  | n + 1, s, log =>
    match s.cursor.rest with
    | [] => (s, log)
    | _ :: _ =>
      let next := s.step log
      drain n next.1 next.2

/-- Holds a mark of the end of the script. -/
def close (s : Session) : Session :=
  { s with tokens := s.tokens.push (.eof s.cursor.line) }

/-- The event that sums up a scan. -/
def summary (s : Session) : Event :=
  .finished s.tokens.size (Token.errors s.tokens.toList).length s.cursor.line

/-- Scans to the end of the script. An item has at least one character, so there are no more
items than characters left. -/
def tokenizeAll (s : Session) (log : Journal) : Session × Journal :=
  let length := s.source.utf8ByteSize
  let log := log.note length [.span length, .enter]
  let drained := drain s.cursor.rest.length s log
  let closed := drained.1.close
  (closed, drained.2.note length [.event closed.summary, .exit])

/-! ### Reaching the end -/

/-- A step reads one item. -/
theorem step_cursor (s : Session) (log : Journal) : (s.step log).1.cursor = s.cursor.scan.2 := by
  cases hscan : s.cursor.scan with
  | mk made cursor => cases made <;> simp [step, hscan]

/-- At the end of the script no step is made. -/
theorem drain_of_rest_nil {s : Session} (h : s.cursor.rest = []) (n : Nat) (log : Journal) :
    drain n s log = (s, log) := by
  cases n with
  | zero => rfl
  | succ n => rw [drain, h]

/-- As many steps as characters remain bring a session to the end of its script. -/
theorem drain_rest (n : Nat) (s : Session) (log : Journal) (h : s.cursor.rest.length ≤ n) :
    (drain n s log).1.cursor.rest = [] := by
  induction n generalizing s log with
  | zero => simpa [drain] using h
  | succ n ih =>
      cases hrest : s.cursor.rest with
      | nil => rw [drain_of_rest_nil hrest, hrest]
      | cons ch rest =>
          have hshorter : s.cursor.scan.2.rest.length < s.cursor.rest.length :=
            Cursor.scan_rest_length_lt (hrest ▸ List.cons_ne_nil ch rest)
          rw [drain, hrest]
          apply ih
          rw [step_cursor]
          omega

/-- A scan ends at the end of the script. -/
theorem tokenizeAll_rest (s : Session) (log : Journal) :
    (s.tokenizeAll log).1.cursor.rest = [] :=
  drain_rest _ _ _ (Nat.le_refl _)

/-- The last token after a scan marks the end, on the line that the scan has come to. -/
theorem tokenizeAll_getLast? (s : Session) (log : Journal) :
    (s.tokenizeAll log).1.tokens.toList.getLast? =
      some (.eof (s.tokenizeAll log).1.cursor.line) := by
  unfold tokenizeAll close
  simp

/-- At the end of the script a scan only adds a mark. -/
theorem tokenizeAll_of_rest_nil {s : Session} (h : s.cursor.rest = []) (log : Journal) :
    (s.tokenizeAll log).1 = s.close := by
  rw [tokenizeAll, h]
  rfl

/-! ### The script stays -/

/-- A step leaves the script as it is. -/
@[simp] theorem step_source (s : Session) (log : Journal) : (s.step log).1.source = s.source := by
  unfold step
  split <;> rfl

/-- Any number of steps leave the script as it is. -/
@[simp] theorem drain_source (n : Nat) (s : Session) (log : Journal) :
    (drain n s log).1.source = s.source := by
  induction n generalizing s log with
  | zero => rfl
  | succ n ih =>
      unfold drain
      split
      · rfl
      · rw [ih, step_source]

/-- A scan leaves the script as it is. -/
@[simp] theorem tokenizeAll_source (s : Session) (log : Journal) :
    (s.tokenizeAll log).1.source = s.source :=
  drain_source _ _ _

end Session

/-- Cuts a script into tokens, the last of which marks its end, and records what happens. -/
def tokenizeInto (log : Journal) (source : String) : List Token × Journal :=
  let scanned := (Session.start source).tokenizeAll log
  (scanned.1.tokens.toList, scanned.2)

/-- Cuts a script into tokens, the last of which marks its end. -/
def tokenize (source : String) : List Token :=
  (tokenizeInto .silent source).1

/-- The listing of a script: its tokens, one to a line. -/
def listing (source : String) : String :=
  Token.renderAll (tokenize source)

/-- The listing of a script, the listing of that listing, and so on, as many as asked for. -/
def relistings : Nat → String → List String
  | 0, _ => []
  | n + 1, source => listing source :: relistings n (listing source)

end ScriptLexer
