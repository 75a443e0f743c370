import TestDesign.Data.Verdict
import TestDesign.Plan.Basic

/-!
# TestDesign.Plan.Analysis

What is known of elements before a plan is made: every data case with its verdict, and for invalid
ones the steps of the property that the value violates.
-/

namespace TestDesign

/-- All data cases of an element, in order. -/
abbrev Analysis := List PlannedCase

/-- The analyses of elements, by their variables. -/
abbrev AnalysisMap := Keyed Analysis

namespace Constraints

/-- Whether zero lies below the declared minimum value. The zero of dates and times is the first
of their domain. -/
def isZeroBelowMin (c : Constraints) : Bool :=
  match c.minValue with
  | some (.int n) => 0 < n
  | some (.real x) => Decimal.ofInt 0 < x
  | some (.date _) | some (.time _) | some (.dateTime _) => true
  | _ => false

/-- Whether zero lies below the declared minimum length. -/
def isZeroBelowMinLength (c : Constraints) : Bool := c.minLength.any (0 < ·)

/-- The property that puts a boundary outside the range. -/
def violatedBound (b : Boundary) (zeroBelow : Bool) (min max : PropertyKind) :
    Option PropertyKind :=
  match b with
  | .lowest | .randomBelowMin | .justBelowMin => some min
  | .justAboveMax | .randomAboveMax | .greatest => some max
  | .zero => some (if zeroBelow then min else max)
  | .min | .justAboveMin | .median | .randomBetweenMinMax | .justBelowMax | .max => none

/-- The property that the value of an invalid case violates. -/
def violated (c : Constraints) : DataCase → Option PropertyKind
  | .value b => violatedBound b c.isZeroBelowMin .minValue .maxValue
  | .length b => violatedBound b c.isZeroBelowMinLength .minLength .maxLength
  | .formatValid | .formatInvalid => some .format
  | .setFirst | .setRandom | .setLast | .setOther => some .value
  | .filled | .notFilled => some .required
  | .computed => none

end Constraints

namespace Element

/-- The steps that a property of the element declares for its violation. -/
def otherwiseSteps (e : Element) (kind : Option PropertyKind) : List Step :=
  match kind.bind e.property? with
  | some p => p.otherwiseSteps
  | none => []

/-- A data case of the element under its constraints. -/
def plannedCase (e : Element) (c : Constraints) (case : DataCase) : PlannedCase :=
  let verdict := c.verdict case
  { case, verdict
    otherwiseSteps := if verdict = .invalid then e.otherwiseSteps (c.violated case) else [] }

/-- All data cases of the element. -/
def analysis (e : Element) : Except DataError Analysis :=
  (Constraints.ofElement e).map fun c => DataCase.all.map (e.plannedCase c)

end Element

namespace Analysis

/-- The cases in order; of several entries for a case the last one counts. -/
def ofList (entries : List PlannedCase) : Analysis :=
  DataCase.all.filterMap fun case => entries.reverse.find? (·.case = case)

def get? (a : Analysis) (case : DataCase) : Option PlannedCase := a.find? (·.case = case)

end Analysis

namespace AnalysisMap

/-- Adds an element, or the fault of its constraints; the first of several elements with a
variable counts. -/
def add (found : AnalysisMap × List (String × DataError)) (e : Element) :
    AnalysisMap × List (String × DataError) :=
  let (map, errors) := found
  let var := e.variableName
  if map.contains var then found
  else
    match e.analysis with
    | .ok a => (map.insert var a, errors)
    | .error err => (map, errors ++ [(var, err)])

/-- The analyses of elements, and the faults of the elements that have none. -/
def ofElements (es : List Element) : AnalysisMap × List (String × DataError) :=
  es.foldl add (.empty, [])

/-- The steps for the violation that a case of an element is about. -/
def otherwiseSteps (map : AnalysisMap) (var : String) (case : DataCase) : List Step :=
  match (map.get? var).bind fun a => Analysis.get? a case with
  | some p => p.otherwiseSteps
  | none => []

end AnalysisMap

end TestDesign
