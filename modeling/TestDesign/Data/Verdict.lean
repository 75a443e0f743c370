import TestDesign.Data.Constraints

/-!
# TestDesign.Data.Verdict

What the application is expected to do with the value of a data case, according to the constraints
of the element. Nothing is drawn for that.

A boundary at or below the minimum needs a declared minimum, one at or above the maximum a declared
maximum, and the others at least one of them. Boundaries outside the range are invalid; where
there is nothing outside, they are the bound itself and so valid.
-/

namespace TestDesign

/-- What is known of a range without drawing from it. -/
structure Extent where
  hasMin : Bool
  hasMax : Bool
  hasBelow : Bool
  hasAbove : Bool
  /-- Whether a boundary that is not random lies in the range. -/
  holds : Boundary → Bool

namespace Extent

/-- Whether the declared bounds give a boundary a meaning. -/
def applies (x : Extent) : Boundary → Bool
  | .randomBelowMin | .justBelowMin | .min | .justAboveMin => x.hasMin
  | .justBelowMax | .max | .justAboveMax | .randomAboveMax => x.hasMax
  | .lowest | .zero | .median | .randomBetweenMinMax | .greatest => x.hasMin || x.hasMax

def invalidIf (outside : Bool) : Verdict := if outside then .invalid else .valid

def verdict (x : Extent) (b : Boundary) : Verdict :=
  if !x.applies b then .incompatible
  else
    match b with
    | .lowest | .zero | .greatest => invalidIf !x.holds b
    | .min | .justAboveMin | .median | .randomBetweenMinMax | .justBelowMax | .max => .valid
    | .randomBelowMin | .justBelowMin => invalidIf x.hasBelow
    | .justAboveMax | .randomAboveMax => invalidIf x.hasAbove

end Extent

namespace Constraints

/-- The extent of the values, if they have an order and the bounds are consistent. -/
def valueExtent? (c : Constraints) : Option Extent :=
  match c.valueRange none with
  | .ok (some r) => some {
      hasMin := c.minValue.isSome, hasMax := c.maxValue.isSome
      hasBelow := r.hasBelow, hasAbove := r.hasAbove, holds := r.holds }
  | _ => none

/-- The extent of the lengths of a string, if the bounds are consistent. -/
def lengthExtent? (c : Constraints) : Option Extent :=
  if c.dataType ≠ .string then none
  else
    match c.lengthRange with
    | .ok r => some {
        hasMin := c.minLength.isSome, hasMax := c.maxLength.isSome
        hasBelow := r.hasBelow, hasAbove := r.hasAbove, holds := r.holds }
    | .error _ => none

def verdictIn (x : Option Extent) (b : Boundary) : Verdict :=
  match x with
  | some x => x.verdict b
  | none => .incompatible

/-- A verdict that stands if the element declares what it is about. -/
def verdictIf (declared : Bool) (v : Verdict) : Verdict := if declared then v else .incompatible

/-- The verdict on a data case. -/
def verdict (c : Constraints) : DataCase → Verdict
  | .value b => verdictIn c.valueExtent? b
  | .length b => verdictIn c.lengthExtent? b
  | .formatValid => verdictIf c.format.isSome .valid
  | .formatInvalid => verdictIf c.format.isSome .invalid
  | .setFirst | .setRandom | .setLast => verdictIf c.hasAccepted .valid
  | .setOther => verdictIf c.hasAccepted .invalid
  | .filled => .valid
  | .notFilled => if c.isRequired then .invalid else .valid
  | .computed => verdictIf c.isComputed .valid

/-- The data cases with a verdict, in order. -/
def casesWith (c : Constraints) (v : Verdict) : List DataCase :=
  DataCase.all.filter fun case => c.verdict case = v

end Constraints

end TestDesign
