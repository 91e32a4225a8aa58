/-!
# Symbols

The punctuation marks and operators of the scripting language. Every symbol has one spelling
and is known by it; four one-character operators have a two-character form that ends in `=`.

## Main results

* `spelling_cases` — a spelling is one starting character, or one followed by `=`.
-/

namespace ScriptLexer

/-- A punctuation mark or an operator. -/
inductive Symbol where
  | leftParen
  | rightParen
  | colon
  | comma
  | dot
  | minus
  | plus
  | slash
  | star
  | bang
  | notEqual
  | assign
  | equal
  | greater
  | greaterEqual
  | less
  | lessEqual
  deriving DecidableEq

namespace Symbol

/-- The characters that stand for a symbol in a script. -/
def spelling : Symbol → String
  | leftParen => "("
  | rightParen => ")"
  | colon => ":"
  | comma => ","
  | dot => "."
  | minus => "-"
  | plus => "+"
  | slash => "/"
  | star => "*"
  | bang => "!"
  | notEqual => "!="
  | assign => "="
  | equal => "=="
  | greater => ">"
  | greaterEqual => ">="
  | less => "<"
  | lessEqual => "<="

/-- Every symbol, each once. -/
def all : List Symbol :=
  [leftParen, rightParen, colon, comma, dot, minus, plus, slash, star,
    bang, notEqual, assign, equal, greater, greaterEqual, less, lessEqual]

/-- The symbol that a single character spells. -/
def ofChar? : Char → Option Symbol
  | '(' => some leftParen
  | ')' => some rightParen
  | ':' => some colon
  | ',' => some comma
  | '.' => some dot
  | '-' => some minus
  | '+' => some plus
  | '/' => some slash
  | '*' => some star
  | '!' => some bang
  | '=' => some assign
  | '>' => some greater
  | '<' => some less
  | _ => none

/-- The operator that a one-character operator becomes when `=` follows it directly. -/
def withEquals? : Symbol → Option Symbol
  | bang => some notEqual
  | assign => some equal
  | greater => some greaterEqual
  | less => some lessEqual
  | _ => none

/-! ### Spellings -/

/-- Every symbol is listed. -/
theorem mem_all (s : Symbol) : s ∈ all := by
  cases s <;> decide

/-- A character that spells a symbol is the whole of its spelling. -/
theorem spelling_of_ofChar? {c : Char} {s : Symbol} (h : ofChar? c = some s) :
    s.spelling.toList = [c] := by
  unfold ofChar? at h
  split at h
  case h_14 => cases h
  all_goals
    cases h
    decide

/-- The two-character form of an operator is its spelling followed by `=`. -/
theorem spelling_of_withEquals? {s t : Symbol} (h : s.withEquals? = some t) :
    t.spelling.toList = s.spelling.toList ++ ['='] := by
  cases s <;> simp [withEquals?] at h <;> subst h <;> decide

/-- A two-character operator has no longer form. -/
theorem withEquals?_of_withEquals? {s t : Symbol} (h : s.withEquals? = some t) :
    t.withEquals? = none := by
  cases s <;> simp [withEquals?] at h <;> subst h <;> rfl

/-- Every symbol is spelled by one starting character, or by one followed by `=`. -/
theorem spelling_cases (s : Symbol) :
    (∃ c, ofChar? c = some s ∧ s.spelling.toList = [c]) ∨
      ∃ t c, ofChar? c = some t ∧ t.withEquals? = some s ∧ s.spelling.toList = [c, '='] := by
  cases s
  case notEqual => exact .inr ⟨bang, '!', rfl, rfl, by decide⟩
  case equal => exact .inr ⟨assign, '=', rfl, rfl, by decide⟩
  case greaterEqual => exact .inr ⟨greater, '>', rfl, rfl, by decide⟩
  case lessEqual => exact .inr ⟨less, '<', rfl, rfl, by decide⟩
  case leftParen => exact .inl ⟨'(', rfl, by decide⟩
  case rightParen => exact .inl ⟨')', rfl, by decide⟩
  case colon => exact .inl ⟨':', rfl, by decide⟩
  case comma => exact .inl ⟨',', rfl, by decide⟩
  case dot => exact .inl ⟨'.', rfl, by decide⟩
  case minus => exact .inl ⟨'-', rfl, by decide⟩
  case plus => exact .inl ⟨'+', rfl, by decide⟩
  case slash => exact .inl ⟨'/', rfl, by decide⟩
  case star => exact .inl ⟨'*', rfl, by decide⟩
  case bang => exact .inl ⟨'!', rfl, by decide⟩
  case assign => exact .inl ⟨'=', rfl, by decide⟩
  case greater => exact .inl ⟨'>', rfl, by decide⟩
  case less => exact .inl ⟨'<', rfl, by decide⟩

end Symbol

end ScriptLexer
