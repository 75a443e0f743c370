import TestDesign.Proofs.PlannedCases

/-!
# TestDesign.Proofs.MixedPlans

What the plans of a planner hold, mix by mix. A plan holds for each analyzed variable one of the
cases with the wanted verdict, and leaves the variable out only where there is no such case
(`Combination.hasIfAny_combine`). `plans_obey_mix`: over the analyses of any elements, each of which
has a valid case, that is what the four mixes promise.
-/

namespace TestDesign

open TestDesign.Random

namespace Analysis

/-- The cases with a verdict, in order. -/
def withVerdict (a : Analysis) (v : Verdict) : List PlannedCase := a.filter (·.verdict = v)

/-- The cases that apply to the element, in order. -/
def compatible (a : Analysis) : List PlannedCase := a.filter (·.verdict ≠ .incompatible)

end Analysis

/-- The case is one of those offered; for a choice by index it is the one at the index, or the last
one. -/
structure Combination.Chooses (c : Combination) (cases : List PlannedCase) (planned : PlannedCase) :
    Prop where
  mem : planned ∈ cases
  index : ∀ n, c = .indexOfEach n → cases[min n (cases.length - 1)]? = some planned

namespace Plan

/-- The plan holds a case for the variable, chosen from the given ones. -/
def Has (plan : Plan) (c : Combination) (var : String) (cases : List PlannedCase) : Prop :=
  ∃ planned, plan.case? var = some planned ∧ c.Chooses cases planned

/-- The plan leaves the variable out exactly when there is no case to choose. -/
def HasIfAny (plan : Plan) (c : Combination) (var : String) (cases : List PlannedCase) : Prop :=
  if cases.isEmpty then plan.case? var = none else plan.Has c var cases

/-- The plan holds nothing but cases of analyzed variables. -/
def IsWithin (plan : Plan) (map : AnalysisMap) : Prop :=
  ∀ var, map.get? var = none → plan.case? var = none

theorem HasIfAny.has {plan : Plan} {c : Combination} {var : String} {cases : List PlannedCase}
    (h : plan.HasIfAny c var cases) (hne : cases ≠ []) : plan.Has c var cases := by
  rwa [HasIfAny, if_neg (by simpa using hne)] at h

end Plan

/-- What a mix promises of the plans that are made for it. -/
def Mix.IsObeyedBy (mix : Mix) (c : Combination) (map : AnalysisMap) (keepValid : List String)
    (plans : List Plan) : Prop :=
  match mix with
  | onlyValid => ∃ plan, plans = [plan] ∧ plan.IsWithin map ∧
      ∀ var a, map.get? var = some a → plan.Has c var (a.withVerdict .valid)
  | justOneInvalid => plans.length = map.size ∧
      ∀ (j : Nat) target, map.keys[j]? = some target → ∃ plan : Plan, plans[j]? = some plan ∧
        plan.IsWithin map ∧ ∀ var a, map.get? var = some a →
          if var = target ∧ var ∉ keepValid then plan.HasIfAny c var (a.withVerdict .invalid)
          else plan.Has c var (a.withVerdict .valid)
  | onlyInvalid => ∃ plan, plans = [plan] ∧ plan.IsWithin map ∧
      ∀ var a, map.get? var = some a →
        if var ∈ keepValid then plan.Has c var (a.withVerdict .valid)
        else plan.HasIfAny c var (a.withVerdict .invalid)
  | unfiltered => plans.length = map.size ∧ ∀ plan ∈ plans, plan.IsWithin map ∧
      ∀ var a, map.get? var = some a → plan.Has c var a.compatible

/-! ## Combining offers -/

variable {c : Combination} {map : AnalysisMap} {wanted : String → Option Verdict} {var : String}
  {a : Analysis} {keepValid : List String}

theorem Combination.always_choose_chooses (c : Combination) (cases : List PlannedCase) :
    (c.choose cases).Always fun chosen =>
      if cases.isEmpty then chosen = none else ∃ planned, chosen = some planned ∧
        c.Chooses cases planned := by
  by_cases hne : cases = []
  · subst hne
    cases c with
    | indexOfEach n => exact Draw.always_pure rfl
    | singleRandomOfEach => exact Draw.always_pure rfl
  · simp only [List.isEmpty_iff, hne, if_false]
    cases c with
    | indexOfEach n =>
      have hpos := List.length_pos_iff.2 hne
      have hlt : min n (cases.length - 1) < cases.length := by omega
      refine Draw.always_pure ⟨cases[min n (cases.length - 1)], List.getElem?_eq_getElem hlt,
        List.getElem_mem hlt, ?_⟩
      rintro m ⟨⟩
      exact List.getElem?_eq_getElem hlt
    | singleRandomOfEach =>
      refine (Draw.always_choose_some hne).mono ?_
      rintro chosen ⟨planned, hmem, rfl⟩
      exact ⟨planned, rfl, hmem, nofun⟩

theorem Combination.exists_case?_combine (c : Combination) (offers : Offers) (s : Stream)
    (var : String) :
    ∃ s₁, ((c.combine offers).run s).1.case? var =
      (offers.get? var).bind fun cases => ((c.choose cases).run s₁).1 :=
  Keyed.exists_get?_traverse (fun _ cases => c.choose cases) offers var s

theorem Mix.get?_offers_of_some (ha : map.get? var = some a) :
    (offers map wanted).get? var =
      if (offered (wanted var) a).isEmpty then none else some (offered (wanted var) a) := by
  rw [offers, Keyed.get?_filterMap, ha, Option.bind_some]

/-- A variable of the map gets one of the cases with the wanted verdict, if there is one. -/
theorem Combination.hasIfAny_combine (wanted : String → Option Verdict) (s : Stream)
    (ha : map.get? var = some a) :
    ((c.combine (Mix.offers map wanted)).run s).1.HasIfAny c var
      (Mix.offered (wanted var) a) := by
  obtain ⟨s₁, hcase⟩ := c.exists_case?_combine (Mix.offers map wanted) s var
  have hchosen := c.always_choose_chooses (Mix.offered (wanted var) a) s₁
  rw [Mix.get?_offers_of_some ha] at hcase
  unfold Plan.HasIfAny
  split at hcase <;> rename_i hempty
  · rw [if_pos hempty]
    exact hcase
  · rw [if_neg hempty] at hchosen ⊢
    obtain ⟨planned, hplanned, hchooses⟩ := hchosen
    exact ⟨planned, hcase.trans hplanned, hchooses⟩

theorem Combination.isWithin_combine (s : Stream) :
    ((c.combine (Mix.offers map wanted)).run s).1.IsWithin map := by
  intro var hnone
  obtain ⟨s₁, hcase⟩ := c.exists_case?_combine (Mix.offers map wanted) s var
  rwa [Mix.offers, Keyed.get?_filterMap, hnone] at hcase

namespace Mix

theorem offered_some {v : Verdict} (hv : v ≠ .incompatible) (a : Analysis) :
    offered (some v) a = a.withVerdict v := by
  refine List.filter_congr fun p _ => ?_
  simp only [Option.all_some]
  by_cases hp : p.verdict = v
  · simp [hp, hv]
  · simp [hp]

theorem offered_none (a : Analysis) : offered none a = a.compatible := by
  refine List.filter_congr fun p _ => ?_
  simp

theorem offered_invalidWhere (target : String → Bool) (a : Analysis) :
    offered (invalidWhere target keepValid var) a =
      if target var = true ∧ var ∉ keepValid then a.withVerdict .invalid
      else a.withVerdict .valid := by
  unfold invalidWhere
  by_cases h : target var = true ∧ var ∉ keepValid
  · rw [if_pos h, if_pos (by simpa using h), offered_some (by decide)]
  · rw [if_neg h, if_neg (by simpa using h), offered_some (by decide)]

end Mix

/-! ## Plans of analyzed elements -/

/-- A filled element is always valid. -/
theorem Element.withVerdict_valid_ne_nil {e : Element} (h : e.analysis = .ok a) :
    a.withVerdict .valid ≠ [] := by
  unfold Element.analysis at h
  obtain ⟨c, -, rfl⟩ := map_eq_ok.1 h
  have hfilled : e.plannedCase c .filled ∈ DataCase.all.map (e.plannedCase c) :=
    List.mem_map_of_mem (by decide)
  exact List.ne_nil_of_mem (List.mem_filter.2 ⟨hfilled, by simp [plannedCase, Constraints.verdict]⟩)

theorem Analysis.compatible_ne_nil (h : a.withVerdict .valid ≠ []) : a.compatible ≠ [] := by
  obtain ⟨planned, hmem⟩ := List.exists_mem_of_ne_nil _ h
  obtain ⟨hmem, hvalid⟩ := List.mem_filter.1 hmem
  exact List.ne_nil_of_mem (List.mem_filter.2 ⟨hmem, by simp [of_decide_eq_true hvalid]⟩)

namespace Combination

variable {s : Stream} (hvalid : a.withVerdict .valid ≠ [])
include hvalid

theorem has_combine_valid (ha : map.get? var = some a) :
    ((c.combine (Mix.offers map fun _ => some .valid)).run s).1.Has c var
      (a.withVerdict .valid) := by
  have hcase := c.hasIfAny_combine (fun _ => some .valid) s ha
  rw [Mix.offered_some (by decide)] at hcase
  exact hcase.has hvalid

theorem has_combine_compatible (ha : map.get? var = some a) :
    ((c.combine (Mix.offers map fun _ => none)).run s).1.Has c var a.compatible := by
  have hcase := c.hasIfAny_combine (fun _ => none) s ha
  rw [Mix.offered_none] at hcase
  exact hcase.has (Analysis.compatible_ne_nil hvalid)

theorem has_combine_invalidWhere (keepValid : List String) (target : String → Bool)
    (ha : map.get? var = some a) :
    let plan := ((c.combine (Mix.offers map (Mix.invalidWhere target keepValid))).run s).1
    if target var = true ∧ var ∉ keepValid then plan.HasIfAny c var (a.withVerdict .invalid)
    else plan.Has c var (a.withVerdict .valid) := by
  have hcase := c.hasIfAny_combine (Mix.invalidWhere target keepValid) s ha
  rw [Mix.offered_invalidWhere] at hcase
  by_cases hinvalid : target var = true ∧ var ∉ keepValid
  · rw [if_pos hinvalid] at hcase ⊢
    exact hcase
  · rw [if_neg hinvalid] at hcase ⊢
    exact hcase.has hvalid

end Combination

theorem Element.cases_of_analysis {e : Element} (h : e.analysis = .ok a) :
    a.map (·.case) = DataCase.all := by
  unfold Element.analysis at h
  obtain ⟨c, -, rfl⟩ := map_eq_ok.1 h
  rw [List.map_map]
  exact List.map_id _

/-- The plans made for the analyses of some elements obey the mix, whatever elements are to stay
valid, and however and from whatever seed cases are chosen. The analyses have all cases in order. -/
theorem plans_obey_mix (p : Planner) (es : List Element) (keepValid : List String) :
    let map := (AnalysisMap.ofElements es).1
    (∀ var a, map.get? var = some a → a.map (·.case) = DataCase.all) ∧
      p.mix.IsObeyedBy p.combination map keepValid (p.plans map keepValid) := by
  intro map
  refine ⟨fun var a ha => ?_, ?_⟩
  · obtain ⟨x, -, -, hx⟩ := AnalysisMap.exists_element_of_get?_ofElements ha
    exact Element.cases_of_analysis hx
  have hvalid {var : String} {a : Analysis} (ha : map.get? var = some a) :
      a.withVerdict .valid ≠ [] := by
    obtain ⟨x, -, -, hx⟩ := AnalysisMap.exists_element_of_get?_ofElements ha
    exact Element.withVerdict_valid_ne_nil hx
  unfold Mix.IsObeyedBy Planner.plans
  cases p.mix with
  | onlyValid =>
    refine ⟨_, rfl, Combination.isWithin_combine _, fun var a ha => ?_⟩
    exact Combination.has_combine_valid (hvalid ha) ha
  | justOneInvalid =>
    refine ⟨by simp [Mix.select, Keyed.keys, keysOf, Keyed.size], ?_⟩
    intro j target hj
    simp only [Mix.select, List.getElem?_mapIdx, List.getElem?_map, hj, Option.map_some]
    refine ⟨_, rfl, Combination.isWithin_combine _, fun var a ha => ?_⟩
    simpa using Combination.has_combine_invalidWhere (hvalid ha) keepValid (· = target) ha
  | onlyInvalid =>
    refine ⟨_, rfl, Combination.isWithin_combine _, fun var a ha => ?_⟩
    have hcase := p.combination.has_combine_invalidWhere (s := (p.seed.nth 0).stream)
      (hvalid ha) keepValid (fun _ => true) ha
    by_cases hkeep : var ∈ keepValid
    · simpa [hkeep] using hcase
    · simpa [hkeep] using hcase
  | unfiltered =>
    refine ⟨by simp [Mix.select, Keyed.keys, keysOf, Keyed.size], ?_⟩
    intro plan hplan
    obtain ⟨j, hj, rfl⟩ := List.mem_mapIdx.1 hplan
    have hoffers : (Mix.unfiltered.select map keepValid)[j] = Mix.offers map fun _ => none := by
      simp [Mix.select]
    rw [hoffers]
    refine ⟨Combination.isWithin_combine _, fun var a ha => ?_⟩
    exact Combination.has_combine_compatible (hvalid ha) ha

end TestDesign
