import TestDesign.Plan.Analysis

/-!
# TestDesign.Plan.Mix

Mixes of valid and invalid data cases. A mix offers each element the cases with a certain verdict;
incompatible cases are never offered. Some elements are to stay valid: only the unfiltered mix
offers them invalid cases. An element without a case to offer is left out.
-/

namespace TestDesign

/-- The cases that are offered to each element, at least one to each. -/
abbrev Offers := Keyed (List PlannedCase)

/-- Which cases a plan is to explore. -/
inductive Mix where
  /-- Valid cases for all elements. -/
  | onlyValid
  /-- For each element in turn, invalid cases for it and valid ones for the others. -/
  | justOneInvalid
  /-- Invalid cases for all elements. -/
  | onlyInvalid
  /-- All cases for all elements, as often as there are elements. -/
  | unfiltered
deriving DecidableEq, Inhabited

namespace Mix

def all : List Mix := [onlyValid, justOneInvalid, onlyInvalid, unfiltered]

def name : Mix → String
  | onlyValid => "only_valid"
  | justOneInvalid => "just_one_invalid"
  | onlyInvalid => "only_invalid"
  | unfiltered => "unfiltered"

def ofName? (s : String) : Option Mix := all.find? (·.name = s)

/-- The cases with the wanted verdict; with any compatible one when none is wanted. -/
def offered (wanted : Option Verdict) (a : Analysis) : List PlannedCase :=
  a.filter fun p => p.verdict ≠ .incompatible && wanted.all (p.verdict = ·)

/-- The cases offered to all elements, by the verdict wanted for each. -/
def offers (map : AnalysisMap) (wanted : String → Option Verdict) : Offers :=
  map.filterMap fun var a =>
    let cases := offered (wanted var) a
    if cases.isEmpty then none else some cases

/-- The verdict wanted where `target` holds, except for elements that are to stay valid. -/
def invalidWhere (target : String → Bool) (keepValid : List String) (var : String) :
    Option Verdict :=
  some (if target var && !keepValid.contains var then .invalid else .valid)

/-- What the mix offers, once for each plan. -/
def select (mix : Mix) (map : AnalysisMap) (keepValid : List String) : List Offers :=
  match mix with
  | onlyValid => [offers map fun _ => some .valid]
  | justOneInvalid => map.keys.map fun target => offers map (invalidWhere (· = target) keepValid)
  | onlyInvalid => [offers map (invalidWhere (fun _ => true) keepValid)]
  | unfiltered => map.keys.map fun _ => offers map fun _ => none

end Mix

end TestDesign
