import TestDesign.Assembly.PreTestCase
import TestDesign.Proofs.Draws
import TestDesign.Proofs.Reading

/-!
# TestDesign.Proofs.PlannedCases

Where the cases of plans come from. The analysis of a variable is that of the first filled element
which has one (`AnalysisMap.get?_ofElements`), the constraints of the variable are those of the last
one (`Survey.get?_constraintsOf`). What a plan holds for a variable is a case of its analysis, and
not an incompatible one (`Assembler.exists_element_of_case?`).
-/

namespace TestDesign

open TestDesign.Random

variable {var : String} {planned : PlannedCase}

theorem eq_ok_of_toOption {ε α : Type} {r : Except ε α} {x : α} (h : r.toOption = some x) :
    r = .ok x := by
  cases r with
  | ok y =>
    cases h
    rfl
  | error e => cases h

/-! ## Surveys -/

namespace AnalysisMap

/-- The analysis of the element, if it has the variable. -/
def analysisFor (var : String) (e : Element) : Option Analysis :=
  if e.variableName = var then e.analysis.toOption else none

theorem get?_add (found : AnalysisMap × List (String × DataError)) (e : Element) :
    (add found e).1.get? var = (found.1.get? var).or (analysisFor var e) := by
  obtain ⟨map, errors⟩ := found
  simp only [add]
  split
  · rename_i hknown
    by_cases hvar : e.variableName = var
    · subst hvar
      obtain ⟨a, ha⟩ := Option.isSome_iff_exists.1 hknown
      rw [ha]
      rfl
    · rw [analysisFor, if_neg hvar, Option.or_none]
  · rename_i hnew
    split
    · rename_i a ha
      by_cases hvar : e.variableName = var
      · subst hvar
        rw [Option.not_isSome_iff_eq_none.1 hnew, Keyed.get?_insert_self, analysisFor, if_pos rfl,
          ha]
        rfl
      · rw [Keyed.get?_insert_ne _ _ (Ne.symm hvar), analysisFor, if_neg hvar, Option.or_none]
    · rename_i err herr
      have hnone : analysisFor var e = none := by
        rw [analysisFor, herr]
        split <;> rfl
      rw [hnone, Option.or_none]

theorem get?_foldl_add (es : List Element) (found : AnalysisMap × List (String × DataError)) :
    (es.foldl add found).1.get? var =
      (found.1.get? var).or (es.findSome? (analysisFor var)) := by
  -- What earlier elements have given stays, so the list is searched from its front.
  induction es generalizing found with
  | nil => rw [List.findSome?_nil, Option.or_none, List.foldl_nil]
  | cons e es ih =>
    rw [List.foldl_cons, ih, get?_add, List.findSome?_cons, Option.or_assoc]
    cases analysisFor var e with
    | none => rfl
    | some a => rfl

/-- The first element with an analysis counts. -/
theorem get?_ofElements (es : List Element) :
    (ofElements es).1.get? var = es.findSome? (analysisFor var) := get?_foldl_add es _

/-- The analysis of a variable is that of an element. -/
theorem exists_element_of_get?_ofElements {es : List Element} {a : Analysis}
    (h : (ofElements es).1.get? var = some a) :
    ∃ x ∈ es, x.variableName = var ∧ x.analysis = .ok a := by
  rw [get?_ofElements] at h
  obtain ⟨x, hx, ha⟩ := List.exists_of_findSome?_eq_some h
  unfold analysisFor at ha
  split at ha
  · rename_i hvar
    exact ⟨x, hx, hvar, eq_ok_of_toOption ha⟩
  · cases ha

end AnalysisMap

namespace Survey

variable {map : AnalysisMap}

/-- The constraints of the element, if it has the variable and the variable is analyzed. -/
def constraintsFor (map : AnalysisMap) (var : String) (e : Element) : Option Constraints :=
  if e.variableName = var ∧ map.contains var = true then (Constraints.ofElement e).toOption
  else none

/-- Adds the constraints of an element. -/
def addConstraints (map : AnalysisMap) (found : Keyed Constraints) (e : Element) :
    Keyed Constraints :=
  if map.contains e.variableName then
    match Constraints.ofElement e with
    | .ok c => found.insert e.variableName c
    | .error _ => found
  else found

theorem constraintsOf_eq_foldl (map : AnalysisMap) (es : List Element) :
    constraintsOf map es = es.foldl (addConstraints map) .empty := rfl

theorem get?_addConstraints (found : Keyed Constraints) (e : Element) :
    (addConstraints map found e).get? var =
      (constraintsFor map var e).or (found.get? var) := by
  unfold addConstraints constraintsFor
  by_cases hvar : e.variableName = var
  · subst hvar
    by_cases hmap : map.contains e.variableName = true
    · rw [if_pos hmap, if_pos ⟨rfl, hmap⟩]
      split
      · rename_i c hc
        rw [hc, Keyed.get?_insert_self]
        rfl
      · rename_i err herr
        rw [herr]
        rfl
    · rw [if_neg hmap, if_neg fun hand => hmap hand.2, Option.none_or]
  · have hother : ¬ (e.variableName = var ∧ map.contains var = true) := fun hand => hvar hand.1
    rw [if_neg hother, Option.none_or]
    split
    · split
      · exact Keyed.get?_insert_ne _ _ (Ne.symm hvar)
      · rfl
    · rfl

theorem get?_foldl_addConstraints (es : List Element) (found : Keyed Constraints) :
    (es.foldl (addConstraints map) found).get? var =
      (es.reverse.findSome? (constraintsFor map var)).or (found.get? var) := by
  -- Here later elements overwrite earlier ones, so it is searched from its end.
  induction es generalizing found with
  | nil => rfl
  | cons e es ih =>
    rw [List.foldl_cons, ih, get?_addConstraints, List.reverse_cons, List.findSome?_append,
      Option.or_assoc, List.findSome?_singleton]

/-- Of the elements of an analyzed variable, the last one with consistent properties counts. -/
theorem get?_constraintsOf (es : List Element) :
    (constraintsOf map es).get? var = es.reverse.findSome? (constraintsFor map var) := by
  rw [constraintsOf_eq_foldl, get?_foldl_addConstraints, Keyed.get?_empty, Option.or_none]

variable {scope : Scope} {scenario : List Step}

theorem constraints_of (scope : Scope) (scenario : List Step) :
    (of scope scenario).1.constraints =
      constraintsOf (of scope scenario).1.map (filled scope scenario) := rfl

/-- The constraints of a variable are those of a filled element. -/
theorem exists_element_of_get?_constraints {c : Constraints}
    (h : (of scope scenario).1.constraints.get? var = some c) :
    ∃ x ∈ filled scope scenario, x.variableName = var ∧ Constraints.ofElement x = .ok c := by
  rw [constraints_of, get?_constraintsOf] at h
  obtain ⟨x, hx, hc⟩ := List.exists_of_findSome?_eq_some h
  unfold constraintsFor at hc
  split at hc
  · rename_i hvar
    exact ⟨x, List.mem_reverse.1 hx, hvar.1, eq_ok_of_toOption hc⟩
  · cases hc

end Survey

/-! ## Plans -/

namespace Mix

variable {map : AnalysisMap}

theorem mem_offered {wanted : Option Verdict} {a : Analysis} (h : planned ∈ offered wanted a) :
    planned ∈ a ∧ planned.verdict ≠ .incompatible := by
  obtain ⟨hmem, hverdict⟩ := List.mem_filter.1 h
  rw [Bool.and_eq_true, decide_eq_true_eq] at hverdict
  exact ⟨hmem, hverdict.1⟩

theorem get?_offers {wanted : String → Option Verdict} {cases : List PlannedCase}
    (h : (offers map wanted).get? var = some cases) :
    ∃ a, map.get? var = some a ∧ cases = offered (wanted var) a := by
  rw [offers, Keyed.get?_filterMap] at h
  obtain ⟨a, ha, hcases⟩ := Option.bind_eq_some_iff.1 h
  refine ⟨a, ha, ?_⟩
  dsimp only at hcases
  split at hcases
  · cases hcases
  · cases hcases
    rfl

theorem exists_offers_of_mem_select {mix : Mix} {keepValid : List String} {o : Offers}
    (h : o ∈ mix.select map keepValid) : ∃ wanted, o = offers map wanted := by
  cases mix with
  | onlyValid | onlyInvalid => exact ⟨_, List.mem_singleton.1 h⟩
  | justOneInvalid | unfiltered =>
    obtain ⟨target, -, rfl⟩ := List.mem_map.1 h
    exact ⟨_, rfl⟩

end Mix

theorem Combination.always_choose (c : Combination) (cases : List PlannedCase) :
    (c.choose cases).Always fun p => ∀ planned ∈ p, planned ∈ cases := by
  cases c with
  | indexOfEach index => exact Draw.always_pure fun planned h => List.mem_of_getElem? h
  | singleRandomOfEach => exact Draw.always_choose cases

/-- The case of a variable is one of those that were offered to it. -/
theorem Combination.exists_offer_of_case? {c : Combination} {offers : Offers} {s : Stream}
    (h : ((c.combine offers).run s).1.case? var = some planned) :
    ∃ cases, offers.get? var = some cases ∧ planned ∈ cases := by
  obtain ⟨cases, s₁, hcases, hchosen⟩ := Keyed.exists_of_get?_traverse h
  exact ⟨cases, hcases, c.always_choose cases s₁ planned hchosen⟩

theorem Planner.exists_analysis_of_case? {p : Planner} {map : AnalysisMap}
    {keepValid : List String} {plan : Plan} (hplan : plan ∈ p.plans map keepValid)
    (h : plan.case? var = some planned) :
    ∃ a, map.get? var = some a ∧ planned ∈ a ∧ planned.verdict ≠ .incompatible := by
  obtain ⟨j, hj, rfl⟩ := List.mem_mapIdx.1 hplan
  obtain ⟨wanted, hwanted⟩ := Mix.exists_offers_of_mem_select (List.getElem_mem hj)
  rw [hwanted] at h
  obtain ⟨cases, hcases, hmem⟩ := Combination.exists_offer_of_case? h
  obtain ⟨a, ha, rfl⟩ := Mix.get?_offers hcases
  exact ⟨a, ha, Mix.mem_offered hmem⟩

namespace Assembler

variable {scope : Scope} {scenario : List Step} {planners : List Planner} {plan : Plan}

theorem exists_analysis_of_case? {survey : Survey} (hplan : plan ∈ plansOf survey planners)
    (h : plan.case? var = some planned) :
    ∃ a, survey.map.get? var = some a ∧ planned ∈ a ∧ planned.verdict ≠ .incompatible := by
  unfold plansOf at hplan
  split at hplan
  · cases List.mem_singleton.1 hplan
    cases h
  · obtain ⟨p, -, hp⟩ := List.mem_flatMap.1 hplan
    exact Planner.exists_analysis_of_case? hp h

/-- What a plan of a scenario holds for a variable is a compatible case of a filled element with
that variable. -/
theorem exists_element_of_case? (hplan : plan ∈ plansOf (Survey.of scope scenario).1 planners)
    (h : plan.case? var = some planned) :
    ∃ x ∈ Survey.filled scope scenario, x.variableName = var ∧
      ∃ c, Constraints.ofElement x = .ok c ∧ planned = x.plannedCase c planned.case ∧
        c.verdict planned.case ≠ .incompatible := by
  obtain ⟨a, ha, hmem, hverdict⟩ := exists_analysis_of_case? hplan h
  obtain ⟨x, hx, hvar, hanalysis⟩ := AnalysisMap.exists_element_of_get?_ofElements ha
  unfold Element.analysis at hanalysis
  obtain ⟨c, hc, rfl⟩ := map_eq_ok.1 hanalysis
  obtain ⟨case, -, rfl⟩ := List.mem_map.1 hmem
  exact ⟨x, hx, hvar, c, hc, rfl, hverdict⟩

/-- Where a plan of a scenario holds a case, the survey has constraints. -/
theorem isSome_constraints_of_case?
    (hplan : plan ∈ plansOf (Survey.of scope scenario).1 planners)
    (h : plan.case? var = some planned) :
    ((Survey.of scope scenario).1.constraints.get? var).isSome = true := by
  obtain ⟨a, ha, -, -⟩ := exists_analysis_of_case? hplan h
  obtain ⟨x, hx, hvar, c, hc, -, -⟩ := exists_element_of_case? hplan h
  rw [Survey.constraints_of, Survey.get?_constraintsOf, List.findSome?_isSome_iff]
  have hknown : (Survey.of scope scenario).1.map.contains var = true := by
    rw [Keyed.contains, ha]
    rfl
  refine ⟨x, List.mem_reverse.2 hx, ?_⟩
  rw [Survey.constraintsFor, if_pos ⟨hvar, hknown⟩, hc]
  rfl

end Assembler

end TestDesign
