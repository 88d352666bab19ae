import DialogueTree.Decimal.Reading

/-!
# Whole numbers in commands

Reading whole numbers that someone has typed: decimal digits with perhaps a sign before them, and
zeros as many as one likes.

* `Whole.index?`: a natural number of 64 bits.
* `Whole.int32?`: an integer of 32 bits.
-/

namespace DialogueTree.Whole

/-- The number that some digits write, at least one. -/
def ofDigits? (cs : List Char) : Option Nat :=
  match cs.mapM Digit.ofChar? with
  | some (d :: ds) => some (Numeral.ofDigits (d :: ds))
  | _ => none

/-- A natural number with perhaps a plus sign. -/
def nat? : List Char → Option Nat
  | '+' :: cs => ofDigits? cs
  | cs => ofDigits? cs

/-- An integer with perhaps a sign. -/
def int? : List Char → Option Int
  | '-' :: cs => (ofDigits? cs).map fun n => -(n : Int)
  | cs => (nat? cs).map fun n => (n : Int)

/-- A natural number of 64 bits. -/
def index? (s : String) : Option Nat := (nat? s.toList).filter (· < indexLimit)

/-- An integer of 32 bits. -/
def int32? (s : String) : Option Int32 :=
  ((int? s.toList).filter fitsInt32).map Int32.ofInt

end DialogueTree.Whole
