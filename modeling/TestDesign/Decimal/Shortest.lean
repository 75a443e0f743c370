import TestDesign.Decimal.Double

/-!
# TestDesign.Decimal.Shortest

The text of a double: the fewest decimal digits that read back as it, written positionally.

The reals that round to `m * 2 ^ q` form an interval around it, whose ends belong to it exactly
when `m` is even. `coarsest` tries powers of ten from the largest down and stops at the first one
with a multiple in the interval; of two such multiples the nearer one is written, and the larger
one when both are equally near.
-/

namespace TestDesign.Decimal

/-- A decimal `coefficient * 10 ^ exponent`. -/
structure Scaled where
  coefficient : Nat
  exponent : Int
deriving DecidableEq

/-- The reals that round to one double, over a common denominator. -/
structure Interval where
  low : Nat
  value : Nat
  high : Nat
  den : Nat
  closed : Bool

namespace Interval

/-- The interval of `m * 2 ^ q`. Below a power of two the next double is half as far away. -/
def of (m : Nat) (q : Int) : Interval :=
  let scale := twoTo (q - 2).toNat
  { low := (if m = twoTo 52 ∧ -1074 < q then 4 * m - 1 else 4 * m - 2) * scale
    value := 4 * m * scale
    high := (4 * m + 2) * scale
    den := twoTo (2 - q).toNat
    closed := m % 2 = 0 }

/-- Counts in steps of `10 ^ p`. -/
def inSteps (i : Interval) (p : Int) : Interval :=
  let up := tenTo (-p).toNat
  { i with low := i.low * up, value := i.value * up, high := i.high * up, den := i.den * tenTo p.toNat }

/-- Whether the interval holds the integer `c`. -/
def holds (i : Interval) (c : Nat) : Bool :=
  if i.closed then i.low ≤ c * i.den && c * i.den ≤ i.high
  else i.low < c * i.den && c * i.den < i.high

/-- The integer of the interval that is nearest to its value, if it holds any: one of the two
neighbours of the value. -/
def integer? (i : Interval) : Option Nat :=
  let c := i.value / i.den
  match i.holds c, i.holds (c + 1) with
  | true, true => some (if 2 * (i.value % i.den) < i.den then c else c + 1)
  | true, false => some c
  | false, true => some (c + 1)
  | false, false => none

end Interval

/-- The first hit on the grids `10 ^ p`, `10 ^ (p - 1)`, … -/
def coarsest (i : Interval) : Nat → Int → Scaled
  | 0, p => ⟨i.value / i.den, p⟩
  | n + 1, p =>
    match (i.inSteps p).integer? with
    | some c => ⟨c, p⟩
    | none => coarsest i n (p - 1)

/-- The shortest decimal of `m * 2 ^ q`, `m` positive. The search starts above the value and
needs seventeen digits at most. -/
def shortest (m : Nat) (q : Int) : Scaled :=
  coarsest (.of m q) 24 (((m.log2 + q) * 30103).fdiv 100000 + 2)

/-- Writes a decimal without an exponent. -/
def Scaled.text (d : Scaled) : String :=
  let digits := (Nat.toDigits 10 d.coefficient)
  if 0 ≤ d.exponent then
    String.ofList (digits ++ List.replicate d.exponent.toNat '0')
  else
    let places := (-d.exponent).toNat
    let padded := List.replicate (places + 1 - digits.length) '0' ++ digits
    let whole := padded.length - places
    String.ofList (padded.take whole ++ '.' :: padded.drop whole)

/-- The text of a double. -/
def text (x : Float) : String :=
  match Parts.of x with
  | .nan => "NaN"
  | .infinite negative => if negative then "-inf" else "inf"
  | .finite negative m q =>
    let body := if m = 0 then "0" else (shortest m q).text
    if negative then "-" ++ body else body

end TestDesign.Decimal
