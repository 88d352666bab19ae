/-!
# Decimal numerals

A decimal number as it is written: a sign, a whole part, digits after a point, a power of ten.
Every value of `Numeral` has exactly one written form per way of signing the exponent, and
`Numeral.parse?` reads it back.

* `Numeral.chars`: the written form.
* `Numeral.parse?`: a numeral that takes up a whole text, no digit too many at its front.
-/

namespace DialogueTree

/-- A decimal digit. -/
abbrev Digit := Fin 10

/-- The digit zero. -/
def Digit.zero : Digit := ⟨0, by decide⟩

/-- The character of a digit. -/
def Digit.char (d : Digit) : Char := Nat.digitChar d.val

/-- The digit that a character stands for. -/
def Digit.ofChar? (c : Char) : Option Digit :=
  if h : 48 ≤ c.toNat ∧ c.toNat < 58 then some ⟨c.toNat - 48, by omega⟩ else none

/-- A decimal number as written. No fraction means no point, and no exponent means that no power
of ten is given. -/
structure Numeral where
  negative : Bool
  whole : Nat
  fraction : List Digit
  exponent : Option Int
  deriving DecidableEq, Repr

namespace Numeral

/-- The numeral of a whole number. -/
def ofInt (i : Int) : Numeral := ⟨decide (i < 0), i.natAbs, [], none⟩

/-! ## Writing -/

/-- How a numeral with an exponent is written: with a plus sign before a power that is not
negative, or without. -/
structure Spelling where
  plus : Bool

/-- The sign and digits of an exponent. -/
def exponentChars (spelling : Spelling) (e : Int) : List Char :=
  (if e < 0 then ['-'] else if spelling.plus then ['+'] else []) ++ Nat.toDigits 10 e.natAbs

/-- A numeral as written. -/
def chars (spelling : Spelling) (n : Numeral) : List Char :=
  (if n.negative then ['-'] else []) ++ Nat.toDigits 10 n.whole ++
    (if n.fraction = [] then [] else '.' :: n.fraction.map Digit.char) ++
    match n.exponent with
    | none => []
    | some e => 'e' :: exponentChars spelling e

/-! ## Reading -/

/-- The digits at the front of a text, and the rest of it. -/
def spanDigits : List Char → List Digit × List Char
  | [] => ([], [])
  | c :: cs =>
    match Digit.ofChar? c with
    | some d => (d :: (spanDigits cs).1, (spanDigits cs).2)
    | none => ([], c :: cs)

/-- The number that digits write. -/
def ofDigits (ds : List Digit) : Nat := ds.foldl (fun n d => 10 * n + d.val) 0

/-- A whole part: one zero, or digits of which the first is not zero. -/
def whole? : List Digit → Option Nat
  | [] => none
  | [d] => some d.val
  | d :: ds => if d = Digit.zero then none else some (ofDigits (d :: ds))

/-- The digits after a point, at least one, or nothing where no point stands. -/
def fraction? : List Char → Option (List Digit × List Char)
  | '.' :: cs =>
    match spanDigits cs with
    | ([], _) => none
    | (d :: ds, rest) => some (d :: ds, rest)
  | cs => some ([], cs)

/-- The digits of an exponent, at least one, up to the end of the text. -/
def exponentDigits? (negative : Bool) (cs : List Char) : Option Int :=
  match spanDigits cs with
  | (d :: ds, []) => some (if negative then -(ofDigits (d :: ds) : Int) else ofDigits (d :: ds))
  | _ => none

/-- An exponent up to the end of the text, or nothing where the text is at its end. -/
def exponent? : List Char → Option (Option Int)
  | [] => some none
  | e :: cs =>
    if e = 'e' ∨ e = 'E' then
      some <$> match cs with
        | '-' :: ds => exponentDigits? true ds
        | '+' :: ds => exponentDigits? false ds
        | ds => exponentDigits? false ds
    else none

/-- A numeral without its sign. -/
def parseUnsigned? (negative : Bool) (cs : List Char) : Option Numeral := do
  let (ds, rest) := spanDigits cs
  let whole ← whole? ds
  let (fraction, rest) ← fraction? rest
  let exponent ← exponent? rest
  return ⟨negative, whole, fraction, exponent⟩

/-- The numeral that takes up the whole of a text. -/
def parse? : List Char → Option Numeral
  | '-' :: cs => parseUnsigned? true cs
  | cs => parseUnsigned? false cs

end Numeral

end DialogueTree
