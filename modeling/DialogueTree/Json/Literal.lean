import DialogueTree.Json.Basic

/-!
# String literals

The escapes of JSON strings. Writing escapes the quote, the backslash and control characters and
nothing else; reading takes the pieces of a literal apart into characters and 16-bit units and
joins the halves of surrogate pairs.

* `Literal.chars`: a literal as written.
* `Literal.ofPieces`: the text that the pieces of a literal make up.
-/

namespace DialogueTree

namespace Literal

/-! ## Writing -/

/-- A control character as an escape of four hexadecimal digits. -/
def controlEscape (c : Char) : List Char :=
  ['\\', 'u', '0', '0', Nat.digitChar (c.toNat / 16), Nat.digitChar (c.toNat % 16)]

/-- A character inside a string. -/
def escape (c : Char) : List Char :=
  if c = '"' then ['\\', '"']
  else if c = '\\' then ['\\', '\\']
  else if c.toNat = 8 then ['\\', 'b']
  else if c.toNat = 12 then ['\\', 'f']
  else if c = '\n' then ['\\', 'n']
  else if c = '\r' then ['\\', 'r']
  else if c = '\t' then ['\\', 't']
  else if c.toNat < 32 then controlEscape c
  else [c]

/-- A literal between its quotes. A string without a text is written as half a surrogate pair. -/
def chars : Literal → List Char
  | some s => '"' :: s.toList.flatMap escape ++ ['"']
  | none => ['"', '\\', 'u', 'd', '8', '0', '0', '"']

/-! ## Reading -/

/-- A part of a literal: a character, or a 16-bit unit given by its number. -/
inductive Piece where
  | plain (c : Char)
  | unit (n : Nat)

/-- Whether a unit is the first half of a surrogate pair. -/
def isHigh (n : Nat) : Bool := 0xD800 ≤ n && n < 0xDC00

/-- Whether a unit is the second half of a surrogate pair. -/
def isLow (n : Nat) : Bool := 0xDC00 ≤ n && n < 0xE000

/-- The character of a surrogate pair. -/
def joinPair (high low : Nat) : Char :=
  Char.ofNat (0x10000 + (high - 0xD800) * 0x400 + (low - 0xDC00))

/-- The characters that the pieces make up, unless half of a pair is left. -/
def charsOfPieces : List Piece → Option (List Char)
  | [] => some []
  | .plain c :: ps => (c :: ·) <$> charsOfPieces ps
  | .unit n :: .unit m :: ps =>
    if isHigh n then if isLow m then (joinPair n m :: ·) <$> charsOfPieces ps else none
    else if isLow n then none
    else (Char.ofNat n :: ·) <$> charsOfPieces (.unit m :: ps)
  | .unit n :: ps =>
    if isHigh n || isLow n then none else (Char.ofNat n :: ·) <$> charsOfPieces ps

/-- The literal that the pieces make up. -/
def ofPieces (ps : List Piece) : Literal := (charsOfPieces ps).map String.ofList

end Literal

end DialogueTree
