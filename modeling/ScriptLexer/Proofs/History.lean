import Mathlib.Data.Nat.Notation
import ScriptLexer.Session.Dialogue

/-!
# Histories of Requests

What a session answers depends on what was asked of it before, and only on two things there: how
often it scanned since it began or was last reset, and whether its tokens were taken away.
`replyAfter` answers a request from a history by these two alone, without a session.

A session has a script, a cursor and an array of tokens to keep in step with this. `Represents`
says how they look after a number of scans: as at the start after none, and from the first scan
on with the cursor at the end of the script, on the line of the mark, so that every further scan
finds no item and adds the same mark again.

## Main results

* `Represents.answer_fst` — a session that has scanned `k` times answers as `k` scans ask for.
* `Represents.answer_snd` — the session behind a request stands for the longer history.
* `replies_start` — whatever is asked, each request is answered as the history before it asks for.
-/

namespace ScriptLexer.Session

open Log (Journal)

/-! ### What a history asks for -/

/-- The number of scans in a history since its last reset, or since its beginning. -/
def scansIn (history : List Request) : ℕ :=
  (history.reverse.takeWhile (· ≠ .reset)).count .tokenizeAll

/-- The tokens held after a number of scans of a script with the tokens `ts`, which end in
`mark`: none, then all of them, then one mark more for every further scan. -/
def heldAfter (ts : List Token) (mark : Token) : ℕ → List Token
  | 0 => []
  | k + 1 => ts ++ List.replicate k mark

/-- The answer to a request after `k` scans of a script with the tokens `ts`, which end in
`mark`. The first scan adds all tokens and each further one a mark. -/
def replyAt (source : String) (ts : List Token) (mark : Token) (k : ℕ) : Request → Reply
  | .tokenizeAll => .scanned (ts.length + k) (if k = 0 then ts else [mark])
  | .tokens => .tokens (heldAfter ts mark k)
  | .source => .source source
  | .render => .listing (Token.renderAll (heldAfter ts mark k))
  | .errors => .errors ((heldAfter ts mark k).filter Token.isError)
  | .reset => .fresh
  | .intoTokens => .tokens (heldAfter ts mark k)

/-- The answer to a request from the history before it. Once the tokens were taken away, there
is nothing left to ask. -/
def replyAfter (source : String) (ts : List Token) (mark : Token) (history : List Request)
    (request : Request) : Reply :=
  if .intoTokens ∈ history then .consumed
  else replyAt source ts mark (scansIn history) request

variable {source : String} {ts : List Token} {mark : Token} {k : ℕ} {s : Session}
  {history : List Request}

/-- How a request changes the number of scans. -/
theorem scansIn_concat (history : List Request) (request : Request) :
    scansIn (history ++ [request]) =
      match request with
      | .tokenizeAll => scansIn history + 1
      | .reset => 0
      | _ => scansIn history := by
  rw [scansIn, List.reverse_append, List.reverse_singleton, List.singleton_append]
  cases request <;> simp [scansIn]

/-! ### Sessions after a number of scans -/

/-- `Represents source mark k s`: the session `s` on the script `source` has scanned `k` times. -/
inductive Represents (source : String) (mark : Token) : ℕ → Session → Prop
  | start : Represents source mark 0 (start source)
  | scanned {k : ℕ} {s : Session} : s.source = source → s.cursor.rest = [] →
      .eof s.cursor.line = mark →
      s.tokens.toList = heldAfter (tokenize source) mark (k + 1) →
      Represents source mark (k + 1) s

/-- Scans keep the script of a session. -/
theorem Represents.source_eq (h : Represents source mark k s) : s.source = source := by
  cases h with
  | start => rfl
  | scanned hsource => exact hsource

/-- A session holds the tokens of its first scan, and one mark more for each scan after that. -/
theorem Represents.tokens_eq (h : Represents source mark k s) :
    s.tokens.toList = heldAfter (tokenize source) mark k := by
  cases h with
  | start => rfl
  | scanned _ _ _ htokens => exact htokens

/-- Every scan but the first adds one mark. -/
theorem heldAfter_succ_succ (ts : List Token) (mark : Token) (k : ℕ) :
    heldAfter ts mark (k + 2) = heldAfter ts mark (k + 1) ++ [mark] := by
  rw [heldAfter, heldAfter, List.replicate_succ', List.append_assoc]

/-- A session that scans has scanned once more. -/
theorem Represents.tokenizeAll (hmark : (tokenize source).getLast? = some mark)
    (h : Represents source mark k s) :
    Represents source mark (k + 1) (s.tokenizeAll .silent).1 := by
  cases h with
  | start =>
      refine .scanned (tokenizeAll_source _ _) (tokenizeAll_rest _ _) ?_ ?_
      · exact Option.some.inj ((tokenizeAll_getLast? _ _).symm.trans hmark)
      · exact (List.append_nil _).symm
  | scanned hsource hrest hline htokens =>
      rw [tokenizeAll_of_rest_nil hrest]
      refine .scanned hsource hrest hline ?_
      rw [close, Array.toList_push, htokens, hline, heldAfter_succ_succ]

/-- The number of tokens of a session is told by its number of scans. -/
theorem Represents.size_eq (h : Represents source mark k s) :
    s.tokens.size = (heldAfter (tokenize source) mark k).length := by
  rw [← h.tokens_eq, Array.length_toList]

/-- What a scan adds to the tokens held. -/
theorem drop_heldAfter (ts : List Token) (mark : Token) (k : ℕ) :
    (heldAfter ts mark (k + 1)).drop (heldAfter ts mark k).length =
      if k = 0 then ts else [mark] := by
  cases k with
  | zero => exact List.append_nil ts
  | succ k => rw [heldAfter_succ_succ, List.drop_left, if_neg (Nat.succ_ne_zero k)]

/-! ### One request -/

/-- A session that has scanned `k` times answers as `k` scans ask for. -/
theorem Represents.answer_fst (hmark : (tokenize source).getLast? = some mark)
    (h : Represents source mark k s) (request : Request) :
    (s.answer request).1 = replyAt source (tokenize source) mark k request := by
  cases request with
  | tokenizeAll =>
      have hscanned := h.tokenizeAll hmark
      rw [answer, replyAt, hscanned.size_eq, hscanned.tokens_eq, h.size_eq, drop_heldAfter,
        heldAfter, List.length_append, List.length_replicate]
  | source => rw [answer, replyAt, h.source_eq]
  | reset => rfl
  | errors =>
      rw [answer, replyAt, h.tokens_eq]
      rfl
  | tokens | render | intoTokens => rw [answer, replyAt, h.tokens_eq]

/-- Unless its tokens are taken away, the session then stands for the longer history: a scan is
one more, a reset begins anew, and nothing else changes it. -/
theorem Represents.answer_snd (hmark : (tokenize source).getLast? = some mark)
    (h : Represents source mark (scansIn history) s) {request : Request}
    (hrequest : request ≠ .intoTokens) :
    ∃ s', (s.answer request).2 = some s' ∧
      Represents source mark (scansIn (history ++ [request])) s' := by
  rw [scansIn_concat]
  cases request with
  | tokenizeAll => exact ⟨_, rfl, h.tokenizeAll hmark⟩
  | reset => exact ⟨_, rfl, h.source_eq ▸ .start⟩
  | tokens | source | render | errors => exact ⟨s, rfl, h⟩
  | intoTokens => exact absurd rfl hrequest

/-! ### All requests -/

/-- `Stands source mark history s`: the session is what `history` leaves of a new one. -/
def Stands (source : String) (mark : Token) (history : List Request) (s : Option Session) :
    Prop :=
  if .intoTokens ∈ history then s = none
  else ∃ t, s = some t ∧ Represents source mark (scansIn history) t

/-- The empty history leaves a new session. -/
theorem stands_nil (source : String) (mark : Token) :
    Stands source mark [] (some (start source)) := by
  rw [Stands, if_neg List.not_mem_nil]
  exact ⟨_, rfl, .start⟩

/-- Once the tokens were taken away, no session is left. -/
theorem stands_none (h : .intoTokens ∈ history) : Stands source mark history none := by
  rw [Stands, if_pos h]

/-- The first of several requests is answered as the history asks for, and what is left of the
session answers the others. -/
theorem Stands.replies_cons (hmark : (tokenize source).getLast? = some mark) {s : Option Session}
    (h : Stands source mark history s) (request : Request) (requests : List Request) :
    ∃ s', Stands source mark (history ++ [request]) s' ∧
      replies s (request :: requests) =
        replyAfter source (tokenize source) mark history request :: replies s' requests := by
  by_cases hend : .intoTokens ∈ history
  · rw [Stands, if_pos hend] at h
    subst h
    refine ⟨none, stands_none (List.mem_append_left _ hend), ?_⟩
    rw [replyAfter, if_pos hend, replies]
  · rw [Stands, if_neg hend] at h
    obtain ⟨t, rfl, ht⟩ := h
    refine ⟨(t.answer request).2, ?_, ?_⟩
    · by_cases hrequest : request = .intoTokens
      · subst hrequest
        exact stands_none (List.mem_append_right _ (List.mem_singleton_self _))
      · obtain ⟨t', hanswer, ht'⟩ := ht.answer_snd hmark hrequest
        rw [Stands, if_neg (by simp [hend, Ne.symm hrequest])]
        exact ⟨t', hanswer, ht'⟩
    · rw [replyAfter, if_neg hend, ← ht.answer_fst hmark]
      rfl

/-- **From any history on**, each request is answered as the history before it asks for. The
induction is on the requests; each of them makes the history longer. -/
theorem Stands.replies_eq (hmark : (tokenize source).getLast? = some mark) {s : Option Session}
    (h : Stands source mark history s) (requests : List Request) :
    replies s requests = requests.mapIdx fun i request =>
      replyAfter source (tokenize source) mark (history ++ requests.take i) request := by
  induction requests generalizing history s with
  | nil => cases s <;> rfl
  | cons request requests ih =>
      obtain ⟨s', hs', hreplies⟩ := h.replies_cons hmark request requests
      rw [hreplies, ih hs', List.mapIdx_cons, List.take_zero, List.append_nil]
      simp only [List.take_succ_cons, List.append_assoc, List.singleton_append]

/-- **Sessions answer from their history.** The tokens of a script end in a mark, and whatever is
asked of a session on the script, each request is answered by the number of scans since the
session began or was last reset, and with `consumed` once the tokens were taken away. -/
theorem replies_start (source : String) :
    ∃ mark, (tokenize source).getLast? = some mark ∧ mark.kind = .eof ∧
      ∀ requests, replies (some (start source)) requests = requests.mapIdx fun i request =>
        replyAfter source (tokenize source) mark (requests.take i) request :=
  have hmark := tokenizeAll_getLast? (start source) .silent
  ⟨_, hmark, rfl, (stands_nil source _).replies_eq hmark⟩

end ScriptLexer.Session
