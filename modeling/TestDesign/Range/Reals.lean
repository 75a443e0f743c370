import TestDesign.Data.Error
import TestDesign.Random.Draw

/-!
# TestDesign.Range.Reals

Ranges of real numbers. Neighbouring values are `delta` apart: a distance that is asked for, or
0.01, or a smaller power of ten when a bound is declared with more decimal places. Values are
rounded to the decimal places of the distance, very large ones aside.
-/

namespace TestDesign

open TestDesign.Random

/-- A range of reals. -/
structure RealRange where
  min : Float
  max : Float
  delta : Float
  decimals : Nat

namespace RealRange

def lowest : Float := Float.ofBits 0xffefffffffffffff

def greatest : Float := Float.ofBits 0x7fefffffffffffff

/-- Values from here on are not rounded. -/
def roundingLimit : Float := Decimal.ofInt 1000000000000000

def maxDecimals : Nat := 15

def defaultDelta : Float := Decimal.nearest false 1 100

/-- Decimal places in the text of a number, fifteen at most. -/
def decimalPlaces (x : Float) : Nat :=
  let places := ((Decimal.text x).toList.dropWhile (· ≠ '.')).drop 1
  Nat.min places.length maxDecimals

/-- A power of ten, by which values are scaled to round them. -/
def factor (places : Nat) : Float := Decimal.ofInt (tenTo places)

/-- Distance and decimal places: those asked for, if they make sense, or those of the bounds. -/
def spacing (min max delta : Option Float) : Float × Nat :=
  match delta.filter fun x => Decimal.isFinite x && Decimal.ofInt 0 < x with
  | some x => (x, decimalPlaces x)
  | none =>
    let decimals := ([min, max].filterMap id).foldl (fun n x => Nat.max n (decimalPlaces x))
      (decimalPlaces defaultDelta)
    (Decimal.ofInt 1 / factor decimals, decimals)

/-- The range of declared bounds. -/
def of (min max delta : Option Float) : Except DataError RealRange :=
  let lo := min.getD lowest
  let hi := max.getD greatest
  if !Decimal.isFinite lo || !Decimal.isFinite hi || hi < lo then
    .error (.invalidRange (Decimal.text lo) (Decimal.text hi))
  else
    let (delta, decimals) := spacing min max delta
    .ok ⟨lo, hi, delta, decimals⟩

/-- All finite numbers. -/
def whole : RealRange := ⟨lowest, greatest, defaultDelta, decimalPlaces defaultDelta⟩

variable (r : RealRange)

def hasBelow : Bool := lowest < r.min

def hasBetween : Bool := r.delta < r.max - r.min

def hasAbove : Bool := r.max < greatest

/-- Rounds to the decimal places of the range. -/
def round (x : Float) : Float :=
  if roundingLimit ≤ x.abs then x
  else
    (x * factor r.decimals).round / factor r.decimals

/-- The value at a boundary that is not random. -/
def fixedAt? : Boundary → Option Float
  | .lowest => some lowest
  | .justBelowMin => some (if r.hasBelow then r.round (r.min - r.delta) else r.min)
  | .min => some r.min
  | .justAboveMin => some (if r.hasBetween then r.round (r.min + r.delta) else r.min)
  | .zero => some (Decimal.ofInt 0)
  | .median =>
    some (if r.hasBetween then r.round (r.min / Decimal.ofInt 2 + r.max / Decimal.ofInt 2)
      else r.min)
  | .justBelowMax => some (if r.hasBetween then r.round (r.max - r.delta) else r.min)
  | .max => some r.max
  | .justAboveMax => some (if r.hasAbove then r.round (r.max + r.delta) else r.max)
  | .greatest => some greatest
  | .randomBelowMin | .randomBetweenMinMax | .randomAboveMax => none

def fixedAt (b : Boundary) : Float := (r.fixedAt? b).getD r.min

/-- A number between two bounds: a random mean of them, rounded and kept between them. -/
def randomIn (lo hi : Float) : Draw Float := do
  let t ← Draw.unit
  let x := r.round (lo * (Decimal.ofInt 1 - t) + hi * t)
  let x := if x < lo then lo else x
  return if hi < x then hi else x

/-- The value at a boundary. -/
def drawAt (b : Boundary) : Draw Float :=
  match b with
  | .randomBelowMin =>
    if r.hasBelow then r.randomIn lowest (r.fixedAt .justBelowMin) else return r.min
  | .randomBetweenMinMax =>
    if r.hasBetween then r.randomIn (r.fixedAt .justAboveMin) (r.fixedAt .justBelowMax)
    else return r.min
  | .randomAboveMax =>
    if r.hasAbove then r.randomIn (r.fixedAt .justAboveMax) greatest else return r.max
  | b => return r.fixedAt b

/-- Whether a number lies between the bounds. -/
def contains (x : Float) : Bool := r.min ≤ x && x ≤ r.max

/-- Whether the value at a boundary lies between the bounds; random values do not count. -/
def holds (b : Boundary) : Bool := (r.fixedAt? b).any r.contains

end RealRange

end TestDesign
