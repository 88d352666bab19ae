import DialogueTree.Text.GlyphTable

/-!
# Quoted text

A text between double quotes, with every character that has no glyph of its own written as an
escape, so that it can be read in a line of a report.

* `quoteChar`: a character inside quotes.
* `quote`: a text with its quotes.
-/

namespace DialogueTree.Text

/-- Whether a character has a glyph of its own. -/
def hasGlyph (c : Char) : Bool :=
  !glyphlessRanges.any fun r => r.1 ≤ c.toNat && c.toNat ≤ r.2

/-- Whether a character is printable ASCII and neither the quote nor the backslash. -/
def isPlain (c : Char) : Bool :=
  32 ≤ c.toNat && c.toNat < 127 && c != '"' && c != '\\'

/-- The number of a character in lower-case hexadecimal, as an escape between braces. -/
def codeEscape (c : Char) : List Char :=
  ['\\', 'u', '\x7b'] ++ Nat.toDigits 16 c.toNat ++ ['\x7d']

/-- A character inside double quotes. -/
def quoteChar (c : Char) : List Char :=
  if isPlain c then [c]
  else if c = '"' then ['\\', '"']
  else if c = '\\' then ['\\', '\\']
  else if c = '\n' then ['\\', 'n']
  else if c = '\r' then ['\\', 'r']
  else if c = '\t' then ['\\', 't']
  else if c.toNat = 0 then ['\\', '0']
  else if hasGlyph c then [c]
  else codeEscape c

/-- A text between double quotes. -/
def quote (s : String) : String :=
  String.ofList (['"'] ++ s.toList.flatMap quoteChar ++ ['"'])

end DialogueTree.Text
