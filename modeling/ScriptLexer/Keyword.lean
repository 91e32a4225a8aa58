/-!
# Keywords

The reserved words of the scripting language. A word is reserved when it is spelled exactly
like a keyword, letter case included.

## Main results

* `ofText?_eq_some_iff` — a keyword is looked up by exactly its own text.
-/

namespace ScriptLexer

/-- A reserved word. The two words in capitals open blocks that run before and after the
script; a constructor whose word means something in Lean as well ends in an underscore. -/
inductive Keyword where
  | beginBlock
  | endBlock
  | alias_
  | and_
  | begin_
  | break_
  | case_
  | class_
  | def_
  | defined
  | do_
  | else_
  | elsif
  | end_
  | ensure
  | false_
  | for_
  | if_
  | in_
  | module_
  | next_
  | nil
  | not_
  | or_
  | redo
  | rescue
  | retry
  | return_
  | self_
  | super
  | then_
  | true_
  | undef
  | unless_
  | until_
  | when
  | while_
  | yield
  deriving DecidableEq

namespace Keyword

/-- The word itself. -/
def text : Keyword → String
  | beginBlock => "BEGIN"
  | endBlock => "END"
  | alias_ => "alias"
  | and_ => "and"
  | begin_ => "begin"
  | break_ => "break"
  | case_ => "case"
  | class_ => "class"
  | def_ => "def"
  | defined => "defined"
  | do_ => "do"
  | else_ => "else"
  | elsif => "elsif"
  | end_ => "end"
  | ensure => "ensure"
  | false_ => "false"
  | for_ => "for"
  | if_ => "if"
  | in_ => "in"
  | module_ => "module"
  | next_ => "next"
  | nil => "nil"
  | not_ => "not"
  | or_ => "or"
  | redo => "redo"
  | rescue => "rescue"
  | retry => "retry"
  | return_ => "return"
  | self_ => "self"
  | super => "super"
  | then_ => "then"
  | true_ => "true"
  | undef => "undef"
  | unless_ => "unless"
  | until_ => "until"
  | when => "when"
  | while_ => "while"
  | yield => "yield"

/-- Every keyword, each once. -/
def all : List Keyword :=
  [beginBlock, endBlock, alias_, and_, begin_, break_, case_, class_, def_, defined, do_, else_,
    elsif, end_, ensure, false_, for_, if_, in_, module_, next_, nil, not_, or_, redo, rescue,
    retry, return_, self_, super, then_, true_, undef, unless_, until_, when, while_, yield]

/-- The keyword that a word is, if it is reserved. -/
def ofText? (word : String) : Option Keyword :=
  all.find? (·.text == word)

/-! ### Texts -/

/-- Every keyword is listed. -/
theorem mem_all (k : Keyword) : k ∈ all := by
  cases k <;> decide

/-- A keyword is looked up by exactly its own text. -/
theorem ofText?_eq_some_iff {word : String} {k : Keyword} :
    ofText? word = some k ↔ k.text = word := by
  constructor
  · intro h
    simpa using List.find?_some h
  · rintro rfl
    cases k <;> decide

end Keyword

end ScriptLexer
