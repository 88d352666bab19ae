import DialogueTree.Decimal.Numeral

/-!
# Reading numerals

The value of a numeral as an index, as a 32-bit integer and as a single-precision number.

A numeral with a fraction or an exponent is never an integer, and neither is minus zero. As a
number with a point, an integer of 64 bits is rounded to single precision at once; any other
numeral is read in double precision first: its leading digits as far as they fit in 64 bits,
multiplied or divided by a power of ten, and then rounded again.

* `Numeral.toIndex?`, `Numeral.toInt32?`: integers within their range.
* `Numeral.toFloat32?`: numbers, unless they are too large for double precision.
-/

namespace DialogueTree

/-- The first natural number that does not fit in 64 bits. -/
def indexLimit : Nat := 18446744073709551616

/-- Whether an integer fits in 32 bits. -/
def fitsInt32 (i : Int) : Bool := -2147483648 ≤ i && i ≤ 2147483647

/-- Whether an integer fits in 64 bits, with a sign or without. -/
def fitsWord (i : Int) : Bool := -9223372036854775808 ≤ i && i < indexLimit

namespace Numeral

/-- The integer that a numeral writes, if it writes one. -/
def toInt? (n : Numeral) : Option Int :=
  if n.fraction = [] ∧ n.exponent = none ∧ ¬(n.negative ∧ n.whole = 0) then
    some (if n.negative then -(n.whole : Int) else n.whole)
  else none

/-- A natural number of 64 bits. -/
def toIndex? (n : Numeral) : Option Nat :=
  match n.toInt? with
  | some i => if 0 ≤ i ∧ i < indexLimit then some i.toNat else none
  | none => none

/-- A signed integer of 32 bits. -/
def toInt32? (n : Numeral) : Option Int32 :=
  match n.toInt? with
  | some i => if fitsInt32 i then some (Int32.ofInt i) else none
  | none => none

/-! ## Double precision -/

/-- Leading digits of a numeral: a number of 64 bits, the power of ten it is to be multiplied by,
and whether later digits still count. -/
structure Leading where
  value : Nat
  place : Int
  taking : Bool

/-- A digit of the whole part: taken if it fits, and otherwise a further place. -/
def Leading.whole (l : Leading) (d : Nat) : Leading :=
  if l.taking ∧ 10 * l.value + d < indexLimit then { l with value := 10 * l.value + d }
  else { l with place := l.place + 1, taking := false }

/-- A digit after the point: taken if it fits, and otherwise, with all that follow, left out. -/
def Leading.fraction (l : Leading) (d : Nat) : Leading :=
  if l.taking ∧ 10 * l.value + d < indexLimit then
    { l with value := 10 * l.value + d, place := l.place - 1 }
  else { l with taking := false }

/-- The leading digits of a numeral. -/
def leading (n : Numeral) : Leading :=
  let whole := (Nat.toDigits 10 n.whole).foldl
    (fun (l : Leading) c => l.whole (c.toNat - 48)) ⟨0, 0, true⟩
  n.fraction.foldl (fun (l : Leading) d => l.fraction d.val) { whole with taking := true }

/-- A power of ten in double precision. -/
def tenPower (k : Nat) : Float := Float.ofScientific 1 false k

/-- `x · 10 ^ place`, unless it is too large. A quotient by more than `10 ^ 616` vanishes. -/
def scale? (x : Float) (place : Int) : Option Float :=
  let k := place.natAbs
  if 0 ≤ place then
    if k ≤ 308 then
      let y := x * tenPower k
      if y.isInf then none else some y
    else if x == 0 then some x else none
  else if k ≤ 308 then some (x / tenPower k)
  else if k ≤ 616 then some (x / tenPower 308 / tenPower (k - 308))
  else some 0

/-- The largest exponent that is looked at. -/
def exponentLimit : Nat := 2147483648

/-- The size of a numeral in double precision. A power of ten out of all bounds makes any number
vanish or become too large. -/
def magnitude? (n : Numeral) : Option Float :=
  let l := n.leading
  let x := l.value.toUInt64.toFloat
  match n.exponent with
  | none => scale? x l.place
  | some e =>
    if e.natAbs < exponentLimit then scale? x (l.place + e)
    else if l.value ≠ 0 ∧ 0 ≤ e then none
    else some 0

/-- The value of a numeral in double precision. -/
def toFloat? (n : Numeral) : Option Float :=
  n.magnitude?.map fun x => if n.negative then -x else x

/-! ## Single precision -/

/-- A double-precision number rounded to single precision, a tie to the even neighbour. -/
def single (x : Float) : Float32 :=
  .ofModel <| .pack <| match x.toModel.unpack with
    | .finite sign m e _ => .round .binary32 sign m e
    | other => other

/-- An integer rounded to single precision. -/
def singleOfInt (i : Int) : Float32 := .ofModel (.ofInt i)

/-- The value of a numeral in single precision. -/
def toFloat32? (n : Numeral) : Option Float32 :=
  match n.toInt? with
  | some i => if fitsWord i then some (singleOfInt i) else n.toFloat?.map single
  | none => n.toFloat?.map single

/-- Whether a numeral is within the range of double precision. -/
def inRange (n : Numeral) : Bool := n.toFloat?.isSome

end Numeral

end DialogueTree
