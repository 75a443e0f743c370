import TestDesign.Data.Case
import TestDesign.Document.Step
import TestDesign.Keyed

/-!
# TestDesign.Plan.Basic

Test plans: which data case each element of a scenario gets.
-/

namespace TestDesign

/-- A data case of an element, with what is expected of it. -/
structure PlannedCase where
  case : DataCase
  verdict : Verdict
  /-- What happens when the value is refused. -/
  otherwiseSteps : List Step := []
deriving DecidableEq, Inhabited

/-- One data case for each of some elements, by the variables of the elements. -/
structure Plan where
  cases : Keyed PlannedCase := .empty
deriving DecidableEq, Inhabited

namespace Plan

/-- The case of an element. -/
def case? (p : Plan) (var : String) : Option PlannedCase := p.cases.get? var

def size (p : Plan) : Nat := p.cases.size

def isEmpty (p : Plan) : Bool := p.cases.isEmpty

/-- Whether some element gets an invalid value. -/
def hasInvalid (p : Plan) : Bool := p.cases.entries.any fun e => e.2.verdict = .invalid

end Plan

end TestDesign
