import TestDesign.Plan.Mix
import TestDesign.Random.Draw

/-!
# TestDesign.Plan.Combination

From the cases offered to each element to the one that it gets.
-/

namespace TestDesign

open TestDesign.Random

/-- How a case is chosen among those offered. -/
inductive Combination where
  /-- The case at a position, or the last one when there are not so many. -/
  | indexOfEach (index : Nat)
  /-- A random case. -/
  | singleRandomOfEach
deriving DecidableEq, Inhabited

namespace Combination

/-- The chosen case. -/
def choose (c : Combination) (cases : List PlannedCase) : Draw (Option PlannedCase) :=
  match c with
  | indexOfEach index => return cases[min index (cases.length - 1)]?
  | singleRandomOfEach => Draw.choose cases

/-- A plan with one case for each element. -/
def combine (c : Combination) (offers : Offers) : Draw Plan := do
  return ⟨← offers.traverse fun _ cases => c.choose cases⟩

end Combination

end TestDesign
