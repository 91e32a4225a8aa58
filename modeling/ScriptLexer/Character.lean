/-!
# Character classes

The classes of characters by which a script is cut into lexemes. All of them are classes of
ASCII characters: a letter or digit outside ASCII belongs to none of them.
-/

namespace ScriptLexer.Character

/-- A blank separates lexemes and does not end a line: space, carriage return or tab. -/
def isBlank (c : Char) : Bool :=
  c == ' ' || c == '\r' || c == '\t'

/-- A word starts with an ASCII letter, `_` or `@`. -/
def startsWord (c : Char) : Bool :=
  c.isAlpha || c == '_' || c == '@'

/-- A word goes on with ASCII letters and digits, `_` and `@`. -/
def continuesWord (c : Char) : Bool :=
  startsWord c || c.isDigit

end ScriptLexer.Character
