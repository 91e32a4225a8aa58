import ScriptLexer.Text.Quoted

/-!
# Terminal controls

Texts that are shown on a terminal can hold controls that the terminal obeys. A log message has
the dangerous ones escaped. The words about a wrong command line have control sequences and
most control characters taken out.

A control sequence starts with U+001B. What follows decides how long it is: after `[` it goes
on to a character from `@` to `~`, after `]` to U+0007, and after `P`, `X`, `^` or `_` to a
string terminator; any other sequence has intermediate characters from the space to `/` and one
final character. U+0018 and U+001A break a sequence off.
-/

namespace ScriptLexer.Text.Terminal

/-! ### Escaping -/

/-- A character of a log message, escaped if a terminal obeys it. -/
def escapeChar (c : Char) : List Char :=
  if c ∈ ['\x07', '\x08', '\x0c', '\x1b', '\x7f'] then
    ['\\', 'x', Nat.digitChar (c.toNat / 16), Nat.digitChar (c.toNat % 16)]
  else if 0x80 ≤ c.toNat ∧ c.toNat ≤ 0x9f then
    ['\\', 'u', '\x7b'] ++ hexadecimal c.toNat ++ ['\x7d']
  else [c]

/-- A log message with the controls that a terminal obeys escaped. -/
def escape (text : String) : String :=
  String.ofList (text.toList.flatMap escapeChar)

/-! ### Taking out -/

/-- Where a text is in a control sequence. -/
inductive State where
  /-- In no sequence. -/
  | ground
  /-- After U+001B. -/
  | escaped
  /-- After U+001B and an intermediate character. -/
  | intermediate
  /-- In a sequence of parameters, after `[`. -/
  | parameters
  /-- In the parameters of a device control string, after `P`. -/
  | device
  /-- In a string that ends with a string terminator. -/
  | string
  /-- In a command to the system, after `]`. -/
  | command
  deriving DecidableEq

/-- Whether a control character of ASCII is shown as white space. -/
def isVisibleControl (c : Char) : Bool :=
  c == '\t' || c == '\n' || c == '\x0c' || c == '\r'

/-- Whether a character beyond ASCII has the byte 9C after its first byte, which terminates a
string. -/
def terminates (c : Char) : Bool :=
  (String.singleton c).toUTF8.toList.tail.contains 0x9c

/-- The state after a character from the space to `~` that follows U+001B. -/
def afterEscape (c : Char) : State :=
  if c.toNat < 0x30 then .intermediate
  else if c == '[' then .parameters
  else if c == ']' then .command
  else if c == 'P' then .device
  else if c == 'X' || c == '^' || c == '_' then .string
  else .ground

/-- The state after a character of a sequence that is no control character. -/
def State.next : State → Char → State
  | ground, _ => ground
  | escaped, c => afterEscape c
  | intermediate, c => if c.toNat < 0x30 then intermediate else ground
  | parameters, c => if c.toNat < 0x40 then parameters else ground
  | device, c => if c.toNat < 0x40 then device else string
  | string, _ => string
  | command, _ => command

/-- Whether control characters act inside a sequence, rather than being part of it. -/
def State.isTransparent : State → Bool
  | device => false
  | string => false
  | command => false
  | _ => true

/-- The state after a character, and whether the character shows. White space that acts inside
a sequence shows and breaks the sequence off. -/
def step (s : State) (c : Char) : State × Bool :=
  if c == '\x1b' then (.escaped, false)
  else if c == '\x18' || c == '\x1a' then (.ground, false)
  else if c.toNat < 0x20 then
    if s.isTransparent && isVisibleControl c then (.ground, true)
    else if s == .command && c == '\x07' then (.ground, false)
    else (s, false)
  else if c == '\x7f' then (s, false)
  else if c.toNat < 0x80 then (s.next c, s == .ground)
  else if s == .string && terminates c then (.ground, false)
  else (s, s == .ground)

/-- The characters of a text that show, from a state on. -/
def visible : State → List Char → List Char
  | _, [] => []
  | s, c :: rest =>
    if (step s c).2 then c :: visible (step s c).1 rest else visible (step s c).1 rest

/-- A text without control sequences and control characters. -/
def strip (text : String) : String :=
  String.ofList (visible .ground text.toList)

end ScriptLexer.Text.Terminal
