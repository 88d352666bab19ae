import DialogueTree.Decimal.Numeral

/-!
# Shortest decimals

The fewest digits that read back as a single-precision number, and of those the nearest to it.

A finite positive number `m · 2 ^ e` is the nearest one to every real number in an interval
around it; the ends belong to the interval when `m` is even. For one digit, two digits and so on
the two neighbours of the number on that decimal grid are tried, and the first grid with a hit
wins. Nine digits always suffice. All arithmetic is exact, on natural numbers.

* `Span.holds`: whether a fraction lies in the interval.
* `Span.pick`: the hit on one grid.
* `Scientific.shortest`: the digits and the place of the first one.
-/

namespace DialogueTree

/-- What is done when two decimals of one length are equally near. -/
inductive Tie where
  /-- The one with the even last digit wins. -/
  | toEven
  /-- The one farther from zero wins. -/
  | up
  deriving DecidableEq

/-- Digits with a point after the first one, times a power of ten. -/
structure Scientific where
  digits : List Digit
  exponent : Int

/-- The interval of the numbers that round to one number, as fractions over `den`: the lower end,
the number itself, the upper end. -/
structure Span where
  low : Nat
  mid : Nat
  high : Nat
  den : Nat
  /-- Whether the ends belong to the interval. -/
  closed : Bool

namespace Span

/-- The interval of `m · 2 ^ e`, in quarters of the distance to the next number. The lower end is
nearer where the numbers below are twice as dense. -/
def ofBinary (m : Nat) (e : Int) : Span :=
  let scale := Nat.pow 2 (e - 2).toNat
  { low := (if m = Nat.pow 2 23 ∧ -149 < e then 4 * m - 1 else 4 * m - 2) * scale
    mid := 4 * m * scale
    high := (4 * m + 2) * scale
    den := Nat.pow 2 (2 - e).toNat
    closed := m % 2 == 0 }

/-- Whether `n / g` times the denominator lies in the interval stretched by `k`. -/
def holds (s : Span) (n k : Nat) : Bool :=
  if s.closed then s.low * k ≤ n && n ≤ s.high * k else s.low * k < n && n < s.high * k

/-- The nearest multiple of `10 ^ place` in the interval, as how many times it is taken. -/
def pick (tie : Tie) (s : Span) (place : Int) : Option Nat :=
  let g := s.den * Nat.pow 10 place.toNat
  let k := Nat.pow 10 (-place).toNat
  let c := s.mid * k / g
  match s.holds (c * g) k, s.holds ((c + 1) * g) k with
  | true, true =>
    match compare (2 * (s.mid * k - c * g)) g with
    | .lt => some c
    | .gt => some (c + 1)
    | .eq => some (if tie = .toEven ∧ c % 2 = 0 then c else c + 1)
  | true, false => some c
  | false, true => some (c + 1)
  | false, false => none

/-- The power of ten of the leading digit of the number. -/
def leading (s : Span) : Int :=
  let d : Int := (Nat.toDigits 10 s.mid).length - (Nat.toDigits 10 s.den).length
  if s.den * Nat.pow 10 d.toNat ≤ s.mid * Nat.pow 10 (-d).toNat then d else d - 1

end Span

namespace Scientific

/-- The digits of a positive number of multiples of `10 ^ place`, no zero at the end. -/
def ofMultiple (c : Nat) (place : Int) : Scientific :=
  let ds := (Nat.toDigits 10 c).filterMap Digit.ofChar?
  { digits := (ds.reverse.dropWhile (· == Digit.zero)).reverse
    exponent := place + ds.length - 1 }

/-- The fewest digits that read back as `m · 2 ^ e`. -/
def shortest (tie : Tie) (m : Nat) (e : Int) : Scientific :=
  let s := Span.ofBinary m e
  let found := (List.range 9).findSome? fun (k : Nat) =>
    (s.pick tie (s.leading - k)).map (ofMultiple · (s.leading - k))
  found.getD (ofMultiple (s.mid / s.den) 0)

end Scientific

end DialogueTree
