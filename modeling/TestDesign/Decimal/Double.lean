import TestDesign.Power

/-!
# TestDesign.Decimal.Double

Doubles taken apart and put together in exact arithmetic. A finite double is plus or minus
`m * 2 ^ q` with `m < 2 ^ 53` and `-1074 ≤ q ≤ 971`; `Parts.of` reads the two numbers off the bits
and `nearest` finds, for a ratio of natural numbers, the double closest to it, an exact half going
to the even neighbour.
-/

namespace TestDesign.Decimal

/-- What the bits of a double say. -/
inductive Parts where
  | nan
  | infinite (negative : Bool)
  | finite (negative : Bool) (m : Nat) (q : Int)
deriving DecidableEq

def Parts.of (x : Float) : Parts :=
  let bits : Nat := x.toBits.toNat
  let negative := decide (twoTo 63 ≤ bits)
  let exponent : Nat := bits / twoTo 52 % 2048
  let fraction : Nat := bits % twoTo 52
  if exponent = 2047 then
    if fraction = 0 then .infinite negative else .nan
  else if exponent = 0 then
    .finite negative fraction (-1074)
  else
    .finite negative (twoTo 52 + fraction) ((exponent : Int) - 1075)

/-- The quotient, rounded to the nearest integer; an exact half goes to the even one. -/
def roundDiv (num den : Nat) : Nat :=
  let c := num / den
  let r := num % den
  if 2 * r < den then c
  else if 2 * r = den then c + c % 2
  else c + 1

/-- The largest integer `e` with `2 ^ e ≤ num / den`, both positive. -/
def log2Ratio (num den : Nat) : Int :=
  let e : Int := num.log2 - den.log2
  if den * twoTo e.toNat ≤ num * twoTo (-e).toNat then e else e - 1

/-- The bits of the non-negative double nearest to `num / den`. The exponent field and the
significand share one sum, so a significand that rounds up to the next power of two carries. -/
def nearestBits (num den : Nat) : Nat :=
  if num = 0 then 0
  else
    let q := max (log2Ratio num den - 52) (-1074)
    let m := roundDiv (num * twoTo (-q).toNat) (den * twoTo q.toNat)
    min ((q + 1074).toNat * twoTo 52 + m) (2047 * twoTo 52)

/-- The double nearest to plus or minus `num / den`; too large a ratio gives an infinity. -/
def nearest (negative : Bool) (num den : Nat) : Float :=
  Float.ofBits (UInt64.ofNat (nearestBits num den + if negative then twoTo 63 else 0))

def ofInt (n : Int) : Float := nearest (n < 0) n.natAbs 1

/-- The integer that a double is equal to, if there is one. -/
def integral? (x : Float) : Option Int :=
  match Parts.of x with
  | .finite negative m q =>
    if m % twoTo (-q).toNat = 0 then
      let n : Int := (m * twoTo q.toNat / twoTo (-q).toNat : Nat)
      some (if negative then -n else n)
    else
      none
  | _ => none

def isFinite (x : Float) : Bool :=
  match Parts.of x with
  | .finite .. => true
  | _ => false

end TestDesign.Decimal
