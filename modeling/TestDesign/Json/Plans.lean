import TestDesign.Json.Documents
import TestDesign.Plan.Planner

/-!
# TestDesign.Json.Plans

Data cases, plans and strategies as JSON.
-/

namespace TestDesign.Json

def dataCaseReader : Reader DataCase := Reader.named DataCase.ofId?

def ofDataCase (c : DataCase) : Tree := .text c.id

def plannedCaseReader : Reader PlannedCase :=
  .record [
    .of "dtc" false dataCaseReader fun x (p : PlannedCase) => { p with case := x },
    .of "result" false (.named Verdict.ofId?) fun x p => { p with verdict := x },
    .of "otherwise_steps" true (.list stepReader) fun x p => { p with otherwiseSteps := x }] default

def ofPlannedCase (p : PlannedCase) : Tree :=
  .object [("dtc", ofDataCase p.case), ("result", .text p.verdict.id),
    ("otherwise_steps", .list (p.otherwiseSteps.map ofStep))]

def planReader : Reader Plan :=
  .record [
    .of "data_test_cases" false (.keyed plannedCaseReader) fun x (p : Plan) =>
      { p with cases := x }] default

def ofPlan (p : Plan) : Tree :=
  .object [("data_test_cases", .object (p.cases.entries.map fun e => (e.1, ofPlannedCase e.2)))]

def combinationReader : Reader Combination :=
  Reader.choice fun
    | "index_of_each" => some (.holding (Reader.natural.map .indexOfEach))
    | "single_random_of_each" => some (.plain .singleRandomOfEach)
    | _ => none

def ofCombination : Combination → Tree
  | .indexOfEach index => .object [("index_of_each", .int index)]
  | .singleRandomOfEach => .text "single_random_of_each"

def strategyReader : Reader Strategy :=
  .record [
    .of "mix" false (.named Mix.ofName?) fun x (s : Strategy) => { s with mix := x },
    .of "combination" false combinationReader fun x s => { s with combination := x }] default

def ofStrategy (s : Strategy) : Tree :=
  .object [("mix", .text s.mix.name), ("combination", ofCombination s.combination)]

end TestDesign.Json
