/-!
# TestDesign.Data.Case

Data test cases: what a test can intend with the value it types into an element. Most of them are
boundaries of a range, either of the range of values or of the range of lengths.

The order of the cases in `DataCase.all` is the order in which a plan counts them.
-/

namespace TestDesign

/-- A position relative to a range. -/
inductive Boundary where
  | lowest
  | randomBelowMin
  | justBelowMin
  | min
  | justAboveMin
  | zero
  | median
  | randomBetweenMinMax
  | justBelowMax
  | max
  | justAboveMax
  | randomAboveMax
  | greatest
deriving DecidableEq, Inhabited

namespace Boundary

def all : List Boundary :=
  [lowest, randomBelowMin, justBelowMin, min, justAboveMin, zero, median, randomBetweenMinMax,
    justBelowMax, max, justAboveMax, randomAboveMax, greatest]

def id : Boundary → String
  | lowest => "LOWEST"
  | randomBelowMin => "RANDOM_BELOW_MIN"
  | justBelowMin => "JUST_BELOW_MIN"
  | min => "MIN"
  | justAboveMin => "JUST_ABOVE_MIN"
  | zero => "ZERO"
  | median => "MEDIAN"
  | randomBetweenMinMax => "RANDOM_BETWEEN_MIN_MAX"
  | justBelowMax => "JUST_BELOW_MAX"
  | max => "MAX"
  | justAboveMax => "JUST_ABOVE_MAX"
  | randomAboveMax => "RANDOM_ABOVE_MAX"
  | greatest => "GREATEST"

/-- Whether the value at the boundary is drawn. -/
def isRandom : Boundary → Bool
  | randomBelowMin | randomBetweenMinMax | randomAboveMax => true
  | _ => false

end Boundary

/-- What a test intends with a value. -/
inductive DataCase where
  | value (b : Boundary)
  | length (b : Boundary)
  | formatValid
  | formatInvalid
  | setFirst
  | setRandom
  | setLast
  | setOther
  | filled
  | notFilled
  | computed
deriving DecidableEq, Inhabited

/-- The kinds of data test cases. -/
inductive CaseFamily where
  | value
  | length
  | format
  | set
  | required
  | computed
deriving DecidableEq

def CaseFamily.name : CaseFamily → String
  | value => "value"
  | length => "length"
  | format => "format"
  | set => "set"
  | required => "required"
  | computed => "computed"

namespace DataCase

def all : List DataCase :=
  Boundary.all.map value ++ Boundary.all.map length ++
    [formatValid, formatInvalid, setFirst, setRandom, setLast, setOther, filled, notFilled,
      computed]

def id : DataCase → String
  | value b => "VALUE_" ++ b.id
  | length b => "LENGTH_" ++ b.id
  | formatValid => "FORMAT_VALID"
  | formatInvalid => "FORMAT_INVALID"
  | setFirst => "SET_FIRST_ELEMENT"
  | setRandom => "SET_RANDOM_ELEMENT"
  | setLast => "SET_LAST_ELEMENT"
  | setOther => "SET_NOT_IN_SET"
  | filled => "REQUIRED_FILLED"
  | notFilled => "REQUIRED_NOT_FILLED"
  | computed => "COMPUTED"

def ofId? (s : String) : Option DataCase := all.find? (·.id = s)

/-- The position of the case among all cases. -/
def rank (c : DataCase) : Nat := all.idxOf c

def family : DataCase → CaseFamily
  | value _ => .value
  | length _ => .length
  | formatValid | formatInvalid => .format
  | setFirst | setRandom | setLast | setOther => .set
  | filled | notFilled => .required
  | computed => .computed

def valueBoundary? : DataCase → Option Boundary
  | value b => some b
  | _ => none

def lengthBoundary? : DataCase → Option Boundary
  | length b => some b
  | _ => none

end DataCase

/-- What the application is expected to do with a value. -/
inductive Verdict where
  /-- It accepts the value. -/
  | valid
  /-- It refuses the value. -/
  | invalid
  /-- The case does not apply to the element. -/
  | incompatible
deriving DecidableEq, Inhabited

namespace Verdict

def all : List Verdict := [valid, invalid, incompatible]

def id : Verdict → String
  | valid => "VALID"
  | invalid => "INVALID"
  | incompatible => "INCOMPATIBLE"

def ofId? (s : String) : Option Verdict := all.find? (·.id = s)

end Verdict

end TestDesign
