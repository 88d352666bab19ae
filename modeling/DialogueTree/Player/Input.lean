/-!
# Input

The lines of an input that arrives as bytes. A line ends with a line feed or with the input, and a
line whose bytes are no UTF-8 has no text.

* `Input.lines`: the lines of an input.
-/

namespace DialogueTree.Input

/-- Cuts bytes behind each line feed. What has been read of a line is kept backwards. -/
def cut : List UInt8 → List UInt8 → List (List UInt8)
  | [], [] => []
  | line, [] => [line.reverse]
  | line, b :: bs => if b = 10 then (b :: line).reverse :: cut [] bs else cut (b :: line) bs

/-- The text of some bytes, if they are one. -/
def text? (bytes : List UInt8) : Option String := String.fromUTF8? ⟨bytes.toArray⟩

/-- The lines of an input. -/
def lines (bytes : List UInt8) : List (Option String) := (cut [] bytes).map text?

end DialogueTree.Input
