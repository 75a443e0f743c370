import TestDesign.Data.Generate
import TestDesign.Plan.Planner

/-!
# TestDesign.Assembly.Settings

What can be chosen for a run.
-/

namespace TestDesign

open TestDesign.Random

/-- The settings of a run. -/
structure Settings where
  /-- The seed of the run, if it is fixed. -/
  seed : Option String := none
  /-- Lengths of random strings. -/
  minSize : Nat := 0
  maxSize : Nat := 100
  /-- How often a value outside a format or a list is tried. -/
  tries : Nat := 5
  /-- How the name of an element becomes its name in the user interface. -/
  literalCase : Text.CaseStyle := .camel
  /-- The distance between neighbouring reals, instead of that of the declared bounds. -/
  realDelta : Option Float := none
  /-- The plans of all strategies are used, one after the other. -/
  strategies : List Strategy := [⟨.onlyValid, .singleRandomOfEach⟩,
    ⟨.justOneInvalid, .singleRandomOfEach⟩]
deriving BEq, Inhabited

namespace Settings

/-- The seed of runs that are to be the same everywhere. -/
def sharedSeed : String := "scenaria"

/-- The shared seed, small random strings, and valid values only. -/
def minimal : Settings where
  seed := some sharedSeed
  minSize := 1
  maxSize := 10
  tries := 3
  strategies := [⟨.onlyValid, .indexOfEach 0⟩]

/-- Sets the lengths of random strings; the greatest is at least the smallest. -/
def withSizes (s : Settings) (min max : Nat) : Settings :=
  { s with minSize := min, maxSize := Nat.max max min }

/-- The generator of values. -/
def generator (s : Settings) : Generator :=
  Generator.withSizes { tries := s.tries, realDelta := s.realDelta } s.minSize s.maxSize

/-- The planners of the strategies, all with the same seed. -/
def planners (s : Settings) (seed : Seed) : List Planner :=
  s.strategies.map fun strategy => { strategy with seed }

end Settings

end TestDesign
