import DialogueTree.Json.Literal

/-!
# JSON tokens

Cutting a JSON text into tokens, one character at a time. Between tokens only the four blanks of
JSON may stand. A word or a number ends where a character stands that cannot be part of one; two
of them side by side never make a JSON text, so nothing is lost by taking the longest run.

* `Json.Mode.step`: the tokens that one character ends or is.
* `Json.Mode.finish`: the tokens that the end of the text ends.
-/

namespace DialogueTree

namespace Json

/-- A token of a JSON text. -/
inductive Token where
  | openArray
  | closeArray
  | openObject
  | closeObject
  | comma
  | colon
  | null
  | bool (b : Bool)
  | number (n : Numeral)
  | string (s : Literal)

/-- Where the scanner stands: between tokens, or inside a string, an escape, the hexadecimal
digits of an escape, a number or a word. What has been read of the token is kept backwards. -/
inductive Mode where
  | between
  | string (read : List Literal.Piece)
  | escape (read : List Literal.Piece)
  | unit (read : List Literal.Piece) (left value : Nat)
  | number (read : List Char)
  | word (read : List Char)

/-- The four blanks of JSON. -/
def isSpace (c : Char) : Bool := c = ' ' || c = '\t' || c = '\n' || c = '\r'

/-- Whether a character can stand in a number. -/
def isNumeric (c : Char) : Bool :=
  c.isDigit || c = '-' || c = '+' || c = '.' || c = 'e' || c = 'E'

/-- Whether a character can start a number. -/
def startsNumber (c : Char) : Bool := c.isDigit || c = '-'

/-- The token of a punctuation character. -/
def Token.ofChar? : Char → Option Token
  | '[' => some .openArray
  | ']' => some .closeArray
  | '\x7b' => some .openObject
  | '\x7d' => some .closeObject
  | ',' => some .comma
  | ':' => some .colon
  | _ => none

/-- The token of a word. -/
def Token.ofWord? : List Char → Option Token
  | ['n', 'u', 'l', 'l'] => some .null
  | ['t', 'r', 'u', 'e'] => some (.bool true)
  | ['f', 'a', 'l', 's', 'e'] => some (.bool false)
  | _ => none

/-- The character that an escape of one letter stands for. -/
def ofEscape? : Char → Option Char
  | '"' => some '"'
  | '\\' => some '\\'
  | '/' => some '/'
  | 'b' => some (Char.ofNat 8)
  | 'f' => some (Char.ofNat 12)
  | 'n' => some '\n'
  | 'r' => some '\r'
  | 't' => some '\t'
  | _ => none

/-- The value of a hexadecimal digit. -/
def ofHex? (c : Char) : Option Nat :=
  let n := c.toNat
  if 48 ≤ n ∧ n < 58 then some (n - 48)
  else if 97 ≤ n ∧ n < 103 then some (n - 87)
  else if 65 ≤ n ∧ n < 71 then some (n - 55)
  else none

namespace Mode

/-- A character between tokens: a token, or the start of one. -/
def start (c : Char) : Option (List Token × Mode) :=
  if isSpace c then some ([], .between)
  else if c = '"' then some ([], .string [])
  else if startsNumber c then some ([], .number [c])
  else if c.isLower then some ([], .word [c])
  else (Token.ofChar? c).map fun t => ([t], .between)

/-- What one character adds: the tokens that it ends or is, and where the scanner stands after
it. -/
def step : Mode → Char → Option (List Token × Mode)
  | .between, c => start c
  | .string read, c =>
    if c = '"' then some ([.string (.ofPieces read.reverse)], .between)
    else if c = '\\' then some ([], .escape read)
    else if c.toNat < 32 then none
    else some ([], .string (.plain c :: read))
  | .escape read, c =>
    if c = 'u' then some ([], .unit read 4 0)
    else (ofEscape? c).map fun d => ([], .string (.plain d :: read))
  | .unit read left value, c =>
    (ofHex? c).map fun d =>
      ([], if left ≤ 1 then .string (.unit (16 * value + d) :: read)
        else .unit read (left - 1) (16 * value + d))
  | .number read, c =>
    if isNumeric c then some ([], .number (c :: read))
    else do
      let n ← Numeral.parse? read.reverse
      let (ts, mode) ← start c
      return (.number n :: ts, mode)
  | .word read, c =>
    if c.isLower then some ([], .word (c :: read))
    else do
      let t ← Token.ofWord? read.reverse
      let (ts, mode) ← start c
      return (t :: ts, mode)

/-- The tokens that the end of the text ends. -/
def finish : Mode → Option (List Token)
  | .between => some []
  | .number read => (Numeral.parse? read.reverse).map fun n => [.number n]
  | .word read => (Token.ofWord? read.reverse).map fun t => [t]
  | _ => none

end Mode

end Json

end DialogueTree
