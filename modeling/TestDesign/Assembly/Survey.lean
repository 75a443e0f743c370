import TestDesign.Assembly.Session
import TestDesign.Plan.Analysis

/-!
# TestDesign.Assembly.Survey

The elements that the steps of a scenario fill: their analyses, their constraints, and which of
them external steps fill, so that they have to stay valid.
-/

namespace TestDesign

/-- What is known of the elements before test cases are assembled. -/
structure Survey where
  map : AnalysisMap := .empty
  constraints : Keyed Constraints := .empty
  keepValid : List String := []

namespace Survey

/-- The elements that a step fills, as far as there are such elements. -/
def filledBy (scope : Scope) (step : Step) : List Element :=
  if step.isFill then
    (step.entitiesOf .element).filterMap fun e => scope.findElement? e.value
  else []

/-- The elements filled by the steps, in order, as often as they are. -/
def filled (scope : Scope) (steps : List Step) : List Element := steps.flatMap (filledBy scope)

/-- The place of the first element with a variable. -/
def placeOf (es : List Element) (var : String) : Location :=
  match es.find? (·.variableName = var) with
  | some e => e.location
  | none => {}

/-- The constraints of the analyzed elements; of several elements with a variable the last one
counts. -/
def constraintsOf (map : AnalysisMap) (es : List Element) : Keyed Constraints :=
  es.foldl (fun found e =>
    if map.contains e.variableName then
      match Constraints.ofElement e with
      | .ok c => found.insert e.variableName c
      | .error _ => found
    else found) .empty

/-- The survey of a scenario, and the faults of its elements. -/
def of (scope : Scope) (steps : List Step) : Survey × List Note :=
  let es := filled scope steps
  let (map, errors) := AnalysisMap.ofElements es
  ({ map, constraints := constraintsOf map es
     keepValid := (filled scope (steps.filter (·.isExternal))).map (·.variableName) },
    errors.map fun e => .error (.configuration e.1 e.2 (placeOf es e.1)))

end Survey

end TestDesign
