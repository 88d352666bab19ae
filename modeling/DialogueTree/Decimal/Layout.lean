import DialogueTree.Decimal.Shortest

/-!
# Layouts of single-precision numbers

How a single-precision number becomes a numeral: its shortest digits, with a point among or after
them, or as digits times a power of ten. A `Layout` holds the decisions.

* `plain`: never a power of ten, no point after a whole number.
* `marked`: a point always, powers of ten for large and small numbers.
-/

namespace DialogueTree

/-- The decisions of a decimal layout. -/
structure Layout where
  /-- Which of two equally near decimals is taken. -/
  tie : Tie
  /-- Whether a number whose leading digit stands at this power of ten is written without an
  exponent. -/
  positional : Int → Bool
  /-- Whether a whole number without an exponent ends in `.0`. -/
  point : Bool
  /-- How an exponent is written. -/
  spelling : Numeral.Spelling

/-- All numbers are written out, whole ones without a point. -/
def Layout.plain : Layout := ⟨.up, fun _ => true, false, ⟨false⟩⟩

/-- Numbers from `0.0001` to below `10 ^ 16` are written out, and all have a point. -/
def Layout.marked : Layout := ⟨.up, fun e => -4 ≤ e && e ≤ 15, true, ⟨false⟩⟩

namespace Numeral

/-- Digits written out with a point where it belongs. -/
def positional (negative point : Bool) (s : Scientific) : Numeral :=
  let whole := (s.exponent + 1).toNat
  let zeros : List Digit := List.replicate (-(s.exponent + 1)).toNat Digit.zero
  let padding : List Digit := List.replicate (whole - s.digits.length) Digit.zero
  let fraction := zeros ++ s.digits.drop whole
  { negative := negative
    whole := ofDigits (s.digits.take whole ++ padding)
    fraction := if fraction = [] ∧ point then [Digit.zero] else fraction
    exponent := none }

/-- Digits with a point after the first, times a power of ten. -/
def scientific (negative : Bool) (s : Scientific) : Numeral :=
  { negative := negative
    whole := ofDigits (s.digits.take 1)
    fraction := s.digits.drop 1
    exponent := some s.exponent }

/-- Digits in a layout. -/
def ofScientific (l : Layout) (negative : Bool) (s : Scientific) : Numeral :=
  if l.positional s.exponent then positional negative l.point s else scientific negative s

/-- The numeral of a finite number in a layout. -/
def ofFloat32? (l : Layout) (x : Float32) : Option Numeral :=
  match x.toModel.unpack with
  | .notANumber | .infinity _ => none
  | .zero sign => some (ofScientific l (sign matches .negative) ⟨[Digit.zero], 0⟩)
  | .finite sign m e _ =>
    some (ofScientific l (sign matches .negative) (.shortest l.tie m e))

end Numeral

/-- A number as text: its numeral in a layout, or the name of what is not finite. -/
def Layout.text (l : Layout) (x : Float32) : String :=
  match Numeral.ofFloat32? l x with
  | some n => String.ofList (n.chars l.spelling)
  | none => if x.isNaN then "NaN" else if x < 0 then "-inf" else "inf"

end DialogueTree
