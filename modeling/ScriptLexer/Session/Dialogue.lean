import ScriptLexer.Session

/-!
# Dialogues with a session

A session answers requests one after the other: to scan, to show what it holds, to start anew.
A request for the tokens themselves takes them away and ends the session; every request after
that is answered with `consumed`.
-/

namespace ScriptLexer.Session

open Log (Journal)

/-- What can be asked of a session. -/
inductive Request where
  /-- Scan to the end of the script. -/
  | tokenizeAll
  /-- Show the tokens held. -/
  | tokens
  /-- Show the script. -/
  | source
  /-- Show the listing of the tokens held. -/
  | render
  /-- Show the malformed lexemes held. -/
  | errors
  /-- Start anew on the same script. -/
  | reset
  /-- Take the tokens away and end the session. -/
  | intoTokens
  deriving DecidableEq

/-- What a session answers. -/
inductive Reply where
  /-- A scan ended with a number of tokens held, of which the last few are new. -/
  | scanned (count : Nat) (added : List Token)
  /-- Tokens. -/
  | tokens (tokens : List Token)
  /-- The script. -/
  | source (source : String)
  /-- A listing. -/
  | listing (text : String)
  /-- The malformed lexemes. -/
  | errors (tokens : List Token)
  /-- A new session holds no tokens. -/
  | fresh
  /-- The session has ended. -/
  | consumed
  deriving DecidableEq

/-- Answers one request, and the session as it is afterwards. -/
def answer (s : Session) : Request → Reply × Option Session
  | .tokenizeAll =>
    let scanned := (s.tokenizeAll .silent).1
    (.scanned scanned.tokens.size (scanned.tokens.toList.drop s.tokens.size), some scanned)
  | .tokens => (.tokens s.tokens.toList, some s)
  | .source => (.source s.source, some s)
  | .render => (.listing (Token.renderAll s.tokens.toList), some s)
  | .errors => (.errors (Token.errors s.tokens.toList), some s)
  | .reset => (.fresh, some (start s.source))
  | .intoTokens => (.tokens s.tokens.toList, none)

/-- Answers requests in order, starting from a session that may have ended. -/
def replies : Option Session → List Request → List Reply
  | _, [] => []
  | none, _ :: requests => .consumed :: replies none requests
  | some s, request :: requests =>
    let (reply, next) := s.answer request
    reply :: replies next requests

end ScriptLexer.Session
