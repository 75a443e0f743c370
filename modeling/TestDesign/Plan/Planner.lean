import TestDesign.Plan.Combination

/-!
# TestDesign.Plan.Planner

Planners make the plans of a run. Each plan is drawn from a stream of its own, derived from the
planner's seed and the number of the plan, so plans do not depend on each other.
-/

namespace TestDesign

open TestDesign.Random

/-- A mix with a way to combine its offers. -/
structure Strategy where
  mix : Mix := .onlyValid
  combination : Combination := .singleRandomOfEach
deriving DecidableEq, Inhabited

/-- A strategy with a seed. -/
structure Planner extends Strategy where
  seed : Seed
deriving DecidableEq, Inhabited

namespace Planner

/-- One plan for each of the mix's offers. -/
def plans (p : Planner) (map : AnalysisMap) (keepValid : List String) : List Plan :=
  (p.mix.select map keepValid).mapIdx fun j offers =>
    ((p.combination.combine offers).run (p.seed.nth j).stream).1

end Planner

end TestDesign
