import TestDesign.Data.Verdict

/-!
# TestDesign.Data.Generate

Drawing the value of a data case. A case that is incompatible with the constraints has no value;
the others have one, unless no invalid value is found within the allowed tries or a computed value
is not declared.
-/

namespace TestDesign

open TestDesign.Random

namespace Constraints

/-- Cases that leave an element empty. -/
def isEmptying : DataCase → Bool
  | .notFilled | .length .zero | .length .lowest => true
  | _ => false

/-- One of the valid cases that do not leave the element empty. -/
def validCase (c : Constraints) : Draw DataCase := do
  return (← Draw.choose ((c.casesWith .valid).filter fun case => !isEmptying case)).getD .filled

end Constraints

/-- How values are drawn. -/
structure Generator where
  /-- How often a value outside a format or a list of accepted values is tried. -/
  tries : Nat := 5
  /-- Lengths of strings without a declared length. -/
  minSize : Nat := 0
  maxSize : Nat := 100
  /-- The distance between neighbouring reals; none for that of the declared bounds. -/
  realDelta : Option Float := none

namespace Generator

/-- Sets the lengths of strings; the greatest is at least the smallest. -/
def withSizes (g : Generator) (min max : Nat) : Generator :=
  { g with minSize := min, maxSize := Nat.max max min }

variable (g : Generator)

/-- A string without demands. -/
def randomText : Draw String := Draw.textBetween g.minSize g.maxSize

/-- A string that is not empty. -/
def nonEmptyText : Draw String := Draw.textBetween (Nat.max g.minSize 1) (Nat.max g.maxSize 1)

/-- A value of a type, from anywhere in its domain. -/
def anyOf (type : DataType) : Draw Value :=
  match ValueRange.whole type with
  | some r => r.drawAt .randomBetweenMinMax
  | none =>
    match type with
    | .boolean => do return .bool (← Draw.coin)
    | _ => do return .text (← g.nonEmptyText)

/-- A value that is not among the accepted ones. -/
def outsider (c : Constraints) : (tries : Nat) → Draw (Option Value)
  | 0 => return none
  | tries + 1 => do
    let v ← g.anyOf c.dataType
    if c.accepted.contains v then outsider c tries else return some v

/-- A string of a length between the declared ones, not empty if that is possible. -/
def textOfLengths (r : StepRange StepDomain.lengths) : Draw String := do
  let lo := Nat.max (StepDomain.lengths.value r.min).toNat 1
  let hi := Nat.max (StepDomain.lengths.value r.max).toNat lo
  Draw.text (← Draw.length lo hi)

/-- The string of a format. -/
def matching (pattern : String) : Draw (Except DataError Value) :=
  match Pattern.Format.of? pattern with
  | some f => do return .ok (.text (← f.valid))
  | none => return .error (.invalidFormat pattern)

/-- A value for an element that has neither a declared value nor a format. -/
def plain (c : Constraints) : Draw (Except DataError Value) :=
  match c.valueRange g.realDelta with
  | .error e => return .error e
  | .ok (some r) => do return .ok (← r.drawAt .randomBetweenMinMax)
  | .ok none =>
    if c.dataType = .boolean then do return .ok (.bool (← Draw.coin))
    else if c.hasLengthBounds then
      match c.lengthRange with
      | .ok r => do return .ok (.text (← textOfLengths r))
      | .error e => return .error e
    else do return .ok (.text (← g.nonEmptyText))

/-- A filled element: with its declared value, one of the accepted values, a string of its format,
or a value within its bounds, whichever it has first. -/
def filled (c : Constraints) : Draw (Except DataError Value) :=
  match c.value with
  | some v => return .ok v
  | none => do
    match ← Draw.choose c.accepted with
    | some v => return .ok v
    | none =>
      match c.format with
      | some pattern => matching pattern
      | none => g.plain c

/-- The case has no value. -/
def incompatible (case : DataCase) (c : Constraints) : DataError :=
  .incompatible case c.dataType

/-- The value, if there is one. -/
def orIncompatible (case : DataCase) (c : Constraints) : Option Value → Except DataError Value
  | some v => .ok v
  | none => .error (incompatible case c)

/-- The value at a boundary of the values. -/
def atValue (b : Boundary) (c : Constraints) : Draw (Except DataError Value) :=
  match c.valueRange g.realDelta with
  | .error e => return .error e
  | .ok none => return .error (incompatible (.value b) c)
  | .ok (some r) => do return .ok (← r.drawAt b)

/-- A string with a length at a boundary of the lengths. -/
def atLength (b : Boundary) (c : Constraints) : Draw (Except DataError Value) :=
  match c.lengthRange with
  | .error e => return .error e
  | .ok r => do
    let n ← r.drawAt b
    return .ok (.text (← Draw.text n.toNat))

/-- A string that does not match the format. -/
def mismatching (c : Constraints) : Draw (Except DataError Value) :=
  match c.format with
  | none => return .error (incompatible .formatInvalid c)
  | some pattern =>
    match Pattern.Format.of? pattern with
    | none => return .error (.invalidFormat pattern)
    | some f => do
      match ← f.invalid g.tries g.minSize g.maxSize with
      | some s => return .ok (.text s)
      | none => return .error (.noInvalidValue .formatInvalid g.tries)

/-- The value of a case that is compatible with the constraints. -/
def compatible (case : DataCase) (c : Constraints) : Draw (Except DataError Value) :=
  match case with
  | .value b => g.atValue b c
  | .length b => atLength b c
  | .formatValid =>
    match c.format with
    | some pattern => matching pattern
    | none => return .error (incompatible case c)
  | .formatInvalid => g.mismatching c
  | .setFirst => return orIncompatible case c c.accepted.head?
  | .setRandom => do return orIncompatible case c (← Draw.choose c.accepted)
  | .setLast => return orIncompatible case c c.accepted.getLast?
  | .setOther => do
    match ← g.outsider c g.tries with
    | some v => return .ok v
    | none => return .error (.noInvalidValue .setOther g.tries)
  | .filled => g.filled c
  | .notFilled => return .ok (.text "")
  | .computed =>
    match c.value with
    | some v => return .ok v
    | none => return .error (.missingValue .computed)

/-- The value of a case. -/
def generate (case : DataCase) (c : Constraints) : Draw (Except DataError Value) :=
  if c.verdict case = .incompatible then return .error (incompatible case c)
  else g.compatible case c

/-- The value of one of the valid cases. -/
def validValue (c : Constraints) : Draw (Except DataError Value) := do
  g.generate (← c.validCase) c

end Generator

end TestDesign
