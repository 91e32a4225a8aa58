import ScriptLexer.Keyword
import ScriptLexer.Symbol

/-!
# Tokens

A token is a kind, the characters of the script that make it up, and the line on which its
first character stands. Tokens are listed one to a line, as `{lexeme, kind, line}` with the
lexeme as it stands in the script.

## Main results

* `Kind.name_injective` — no two kinds are listed under the same name.
* `renderAll_append` — a listing is made token by token.
-/

namespace ScriptLexer

/-- What a token is. -/
inductive Kind where
  /-- A punctuation mark or an operator. -/
  | symbol (s : Symbol)
  /-- A reserved word. -/
  | keyword (k : Keyword)
  /-- A closed string literal, quotes included. -/
  | string
  /-- Digits, with or without a fraction. -/
  | number
  /-- A word that is not reserved. -/
  | identifier
  /-- The end of the script. -/
  | eof
  /-- A character that starts nothing, or a string that never closes. -/
  | error
  deriving DecidableEq

namespace Kind

/-- The name under which a kind is listed: the spelling of a symbol, the text of a keyword, and
a word for every other kind. -/
def name : Kind → String
  | symbol s => s.spelling
  | keyword k => k.text
  | string => "string"
  | number => "number"
  | identifier => "identifier"
  | eof => "eof"
  | error => "error"

/-- Whether a kind is a reserved word. -/
def isKeyword : Kind → Bool
  | keyword _ => true
  | _ => false

/-- The kind of a word: the keyword that it is, else an identifier. -/
def ofWord (word : String) : Kind :=
  match Keyword.ofText? word with
  | some k => keyword k
  | none => identifier

/-- Every kind, each once. -/
def all : List Kind :=
  Symbol.all.map symbol ++ Keyword.all.map keyword ++ [string, number, identifier, eof, error]

/-- Every kind is listed. -/
theorem mem_all (k : Kind) : k ∈ all := by
  cases k with
  | symbol s => simp [all, Symbol.mem_all]
  | keyword w => simp [all, Keyword.mem_all]
  | string | number | identifier | eof | error => simp [all]

/-- No two kinds are listed under the same name. -/
theorem name_injective {k l : Kind} (h : k.name = l.name) : k = l := by
  have hdistinct : ∀ a ∈ all, ∀ b ∈ all, a.name = b.name → a = b := by decide +kernel
  exact hdistinct k (mem_all k) l (mem_all l) h

end Kind

/-- A piece of a script that means something. -/
structure Token where
  /-- What the token is. -/
  kind : Kind
  /-- The characters of the script that make it up; none for the end of the script. -/
  lexeme : String
  /-- The line of the token's first character, counted from 1. -/
  line : Nat
  deriving DecidableEq

namespace Token

/-- The token that marks the end of a script. -/
def eof (line : Nat) : Token :=
  ⟨.eof, "", line⟩

/-- Whether a token is a malformed lexeme. -/
def isError (t : Token) : Bool :=
  t.kind == .error

/-- A token as it is listed: lexeme, kind and line in braces. -/
def render (t : Token) : String :=
  "\x7b" ++ t.lexeme ++ ", " ++ t.kind.name ++ ", " ++ toString t.line ++ "\x7d"

/-- The listing of tokens, one to a line. -/
def renderAll (tokens : List Token) : String :=
  String.join (tokens.map fun t => t.render ++ "\n")

/-- The malformed lexemes among tokens, in order. -/
def errors (tokens : List Token) : List Token :=
  tokens.filter isError

/-- For each token, whether it is the first of its kind, lexeme and line in the list. -/
def firstSeen (tokens : List Token) : List Bool :=
  go [] tokens
where
  /-- Marks the tokens of a list that are not among those seen before. -/
  go (seen : List Token) : List Token → List Bool
    | [] => []
    | t :: ts => (!seen.contains t) :: go (t :: seen) ts

/-- A malformed lexeme is told by its kind. -/
theorem isError_iff {t : Token} : t.isError = true ↔ t.kind = .error :=
  beq_iff_eq

/-! ### Listings -/

/-- The listing of no tokens is empty. -/
@[simp] theorem renderAll_nil : renderAll [] = "" := rfl

/-- The first row of a listing, and the rows behind it. -/
@[simp] theorem toList_renderAll_cons (t : Token) (ts : List Token) :
    (renderAll (t :: ts)).toList = t.render.toList ++ '\n' :: (renderAll ts).toList := by
  simp [renderAll, String.toList_join]

/-- A listing is made token by token. -/
theorem renderAll_append (ts us : List Token) :
    renderAll (ts ++ us) = renderAll ts ++ renderAll us := by
  apply String.toList_injective
  simp [renderAll, String.toList_join]

end Token

end ScriptLexer
