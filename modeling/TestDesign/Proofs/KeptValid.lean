import TestDesign.Proofs.Courses
import TestDesign.Proofs.MixedPlans

/-!
# TestDesign.Proofs.KeptValid

Elements that are to stay valid. `kept_elements_get_valid_cases`: plans give them valid cases only,
and in a run those are the elements which external steps fill. The unfiltered mix makes no such
exception (`unfiltered_plans_kept_element_invalid`).
-/

namespace TestDesign

open TestDesign.Random

variable {map : AnalysisMap} {keepValid : List String} {var : String} {planned : PlannedCase}

theorem Mix.exists_wanted_of_mem_select {mix : Mix} {o : Offers} (hmix : mix ≠ .unfiltered)
    (h : o ∈ mix.select map keepValid) :
    ∃ wanted, o = offers map wanted ∧ ∀ var ∈ keepValid, wanted var = some .valid := by
  have hkept (target : String → Bool) (var : String) (hvar : var ∈ keepValid) :
      invalidWhere target keepValid var = some .valid := by
    simp [invalidWhere, hvar]
  cases mix with
  | onlyValid => exact ⟨_, List.mem_singleton.1 h, fun _ _ => rfl⟩
  | justOneInvalid =>
    obtain ⟨target, -, rfl⟩ := List.mem_map.1 h
    exact ⟨_, rfl, hkept _⟩
  | onlyInvalid => exact ⟨_, List.mem_singleton.1 h, hkept _⟩
  | unfiltered => exact absurd rfl hmix

theorem Planner.verdict_of_mem_keepValid {p : Planner} {plan : Plan} (hmix : p.mix ≠ .unfiltered)
    (hplan : plan ∈ p.plans map keepValid) (hvar : var ∈ keepValid)
    (h : plan.case? var = some planned) : planned.verdict = .valid := by
  obtain ⟨j, hj, rfl⟩ := List.mem_mapIdx.1 hplan
  obtain ⟨wanted, hwanted, hkept⟩ := Mix.exists_wanted_of_mem_select hmix (List.getElem_mem hj)
  rw [hwanted] at h
  obtain ⟨cases, hcases, hmem⟩ := Combination.exists_offer_of_case? h
  obtain ⟨a, -, rfl⟩ := Mix.get?_offers hcases
  rw [hkept var hvar, Mix.offered_some (by decide)] at hmem
  exact of_decide_eq_true (List.mem_filter.1 hmem).2

theorem Survey.mem_keepValid {scope : Scope} {scenario : List Step} {step : Step} {x : Element}
    (hstep : step ∈ scenario) (hexternal : step.isExternal = true) (hx : x ∈ filledBy scope step) :
    x.variableName ∈ (of scope scenario).1.keepValid :=
  List.mem_map_of_mem
    (List.mem_flatMap.2 ⟨step, List.mem_filter.2 ⟨hstep, hexternal⟩, hx⟩)

namespace Assembler

variable {a : Assembler} {scope : Scope} {scenario : List Step} {planners : List Planner}

theorem verdict_of_mem_plansOf {survey : Survey} {plan : Plan}
    (hmix : ∀ q ∈ planners, q.mix ≠ .unfiltered) (hplan : plan ∈ plansOf survey planners)
    (hvar : var ∈ survey.keepValid) (h : plan.case? var = some planned) :
    planned.verdict = .valid := by
  unfold plansOf at hplan
  split at hplan
  · cases List.mem_singleton.1 hplan
    cases h
  · obtain ⟨q, hq, hplan⟩ := List.mem_flatMap.1 hplan
    exact Planner.verdict_of_mem_keepValid (hmix q hq) hplan hvar h

/-- No plan of a filtering mix gives an invalid case to an element that is to stay valid. So in a
run with such mixes no plan asks for an invalid value of an element that an external step fills. -/
theorem kept_elements_get_valid_cases (a : Assembler) (scope : Scope) (scenario : List Step)
    (session : Session) (hmix : ∀ q ∈ planners, q.mix ≠ .unfiltered) :
    (∀ q ∈ planners, ∀ map keepValid, ∀ plan ∈ q.plans map keepValid, ∀ var ∈ keepValid,
        ∀ planned, plan.case? var = some planned → planned.verdict = .valid) ∧
      ∀ step ∈ scenario, step.isExternal = true → ∀ x ∈ Survey.filledBy scope step,
        (∀ plan ∈ plansOf (Survey.of scope scenario).1 planners,
          ∀ planned, plan.case? x.variableName = some planned → planned.verdict = .valid) ∧
        ∀ p ∈ (a.generate scope scenario planners session).1,
          ∀ planned, p.plan.case? x.variableName = some planned → planned.verdict = .valid := by
  constructor
  · intro q hq map keepValid plan hplan var hvar planned h
    exact Planner.verdict_of_mem_keepValid (hmix q hq) hplan hvar h
  · intro step hstep hexternal x hx
    have hvar := Survey.mem_keepValid hstep hexternal hx
    have hplans (plan : Plan) (hplan : plan ∈ plansOf (Survey.of scope scenario).1 planners)
        (planned : PlannedCase) (h : plan.case? x.variableName = some planned) :
        planned.verdict = .valid := verdict_of_mem_plansOf hmix hplan hvar h
    exact ⟨hplans, fun p hp => hplans p.plan (exists_course_of_mem_generate hp).1⟩

/-- A name that has to be given. -/
def requiredName : Element where
  name := "Name"
  properties := [{ kind := .value, value := .text "Bob" }, { kind := .required, value := .bool true }]

def nameScope : Scope where
  spec := ⟨[{ path := "name.feature", elements := [requiredName] }]⟩

def fillingName : Step where
  content := "When I fill \x7bName\x7d"
  kind := .whenStep
  location := {}
  entities := [⟨.action, "fill", "fill", 7, none⟩, ⟨.element, "Name", "\x7bName\x7d", 12, none⟩]

/-- The name is filled by an external step, and then again. -/
def fillingNameTwice : List Step := [{ fillingName with isExternal := true }, fillingName]

def secondCase (mix : Mix) : Planner where
  mix := mix
  combination := .indexOfEach 1
  seed := ⟨"scenaria"⟩

/-- The cases that the plans of the mix give to the name. -/
def nameCases (mix : Mix) : List (Option PlannedCase) :=
  (generate { seed := ⟨"scenaria"⟩ } nameScope fillingNameTwice [secondCase mix] {}).1.map
    (·.plan.case? "Name")

theorem name_is_filled : ∃ step ∈ fillingNameTwice, step.isExternal = true ∧
    ∃ x ∈ Survey.filledBy nameScope step, x.variableName = "Name" := by
  decide +kernel

theorem requiredName_stays_valid :
    nameCases .onlyInvalid = [some { case := .filled, verdict := .valid }] ∧
      ∀ p ∈ (generate { seed := ⟨"scenaria"⟩ } nameScope fillingNameTwice
          [secondCase .onlyInvalid] {}).1,
        ∀ planned, p.plan.case? "Name" = some planned → planned.verdict = .valid := by
  have hmix : ∀ q ∈ [secondCase .onlyInvalid], q.mix ≠ .unfiltered := by decide
  obtain ⟨step, hstep, hexternal, x, hx, hname⟩ := name_is_filled
  have hkept := (kept_elements_get_valid_cases { seed := ⟨"scenaria"⟩ } nameScope fillingNameTwice
    {} hmix).2 step hstep hexternal x hx
  rw [hname] at hkept
  exact ⟨by decide +kernel, hkept.2⟩

/-- The unfiltered mix leaves the name empty, which an external step fills. -/
theorem unfiltered_plans_kept_element_invalid :
    ¬ ∀ (a : Assembler) (scope : Scope) (scenario : List Step) (planners : List Planner),
      ∀ step ∈ scenario, step.isExternal = true → ∀ x ∈ Survey.filledBy scope step,
        ∀ p ∈ (a.generate scope scenario planners {}).1,
          ∀ planned, p.plan.case? x.variableName = some planned → planned.verdict ≠ .invalid := by
  intro h
  obtain ⟨step, hstep, hexternal, x, hx, hname⟩ := name_is_filled
  have hcases : some { case := .notFilled, verdict := .invalid } ∈ nameCases .unfiltered := by
    decide +kernel
  obtain ⟨p, hp, hplanned⟩ := List.mem_map.1 hcases
  exact h _ nameScope fillingNameTwice _ step hstep hexternal x hx p hp _ (hname ▸ hplanned) rfl

end Assembler

end TestDesign
