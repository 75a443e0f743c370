import TestDesign.Range.Reals
import TestDesign.Range.Steps

/-!
# TestDesign.Range.Values

The range of the values of an element, whatever its ordered data type is.
-/

namespace TestDesign

open TestDesign.Random

/-- A range of values of an ordered type. -/
inductive ValueRange where
  | integer (r : StepRange StepDomain.integers)
  | real (r : RealRange)
  | date (r : StepRange StepDomain.dates)
  | time (r : StepRange StepDomain.times)
  | dateTime (r : StepRange StepDomain.moments)

namespace ValueRange

/-- A declared bound in the type of its element. -/
def typed {α : Type} (kind : PropertyKind) (convert : Value → Option α) :
    Option Value → Except DataError (Option α)
  | none => .ok none
  | some v =>
    match convert v with
    | some x => .ok (some x)
    | none => .error (.ofProperty kind v)

/-- Both declared bounds; a fault of the minimum comes first. -/
def bounds {α : Type} (convert : Value → Option α) (min max : Option Value) :
    Except DataError (Option α × Option α) :=
  match typed .minValue convert min with
  | .error e => .error e
  | .ok lo =>
    match typed .maxValue convert max with
    | .error e => .error e
    | .ok hi => .ok (lo, hi)

/-- The range over a domain of steps. -/
def steps {α : Type} (d : StepDomain α) (convert : Value → Option α) (wrap : StepRange d → ValueRange)
    (min max : Option Value) : Except DataError (Option ValueRange) :=
  match bounds convert min max with
  | .error e => .error e
  | .ok (lo, hi) => (StepRange.of d lo hi).map fun r => some (wrap r)

/-- The range of an element with the given type and declared bounds; none for a type without
order. -/
def of (type : DataType) (min max : Option Value) (delta : Option Float) :
    Except DataError (Option ValueRange) :=
  match type with
  | .integer => steps .integers Value.asInt .integer min max
  | .real =>
    match bounds Value.asReal min max with
    | .error e => .error e
    | .ok (lo, hi) => (RealRange.of lo hi delta).map fun r => some (.real r)
  | .date => steps .dates Value.asDate .date min max
  | .time => steps .times Value.asTime .time min max
  | .dateTime => steps .moments Value.asDateTime .dateTime min max
  | .string | .boolean => .ok none

/-- All values of an ordered type. -/
def whole : DataType → Option ValueRange
  | .integer => some (.integer (.whole _))
  | .real => some (.real .whole)
  | .date => some (.date (.whole _))
  | .time => some (.time (.whole _))
  | .dateTime => some (.dateTime (.whole _))
  | .string | .boolean => none

/-- The value at a boundary. -/
def drawAt (r : ValueRange) (b : Boundary) : Draw Value :=
  match r with
  | integer r => do return .int (← r.drawAt b)
  | real r => do return .real (← r.drawAt b)
  | date r => do return .date (← r.drawAt b)
  | time r => do return .time (← r.drawAt b)
  | dateTime r => do return .dateTime (← r.drawAt b)

def holds (r : ValueRange) (b : Boundary) : Bool :=
  match r with
  | integer r => r.holds b
  | real r => r.holds b
  | date r => r.holds b
  | time r => r.holds b
  | dateTime r => r.holds b

def hasBelow : ValueRange → Bool
  | integer r => r.hasBelow
  | real r => r.hasBelow
  | date r => r.hasBelow
  | time r => r.hasBelow
  | dateTime r => r.hasBelow

def hasBetween : ValueRange → Bool
  | integer r => r.hasBetween
  | real r => r.hasBetween
  | date r => r.hasBetween
  | time r => r.hasBetween
  | dateTime r => r.hasBetween

def hasAbove : ValueRange → Bool
  | integer r => r.hasAbove
  | real r => r.hasAbove
  | date r => r.hasAbove
  | time r => r.hasAbove
  | dateTime r => r.hasAbove

end ValueRange

end TestDesign
