import Mathlib.Data.List.Forall2
import TestDesign.Proofs.FilledElements
import TestDesign.Proofs.KeptValid

/-!
# TestDesign.Proofs.ViolationChecks

The checks of a pre-test-case. `checks_are_violations`: they are what the plan's otherwise steps say
about the elements with an invalid case that ordinary fill steps leave open, one for one and in the
order in which those elements are first filled; no other element has checks.
-/

namespace TestDesign

open TestDesign.Random Drafting

/-! ## The first element of each variable -/

/-- Keeps the first of the elements with a variable. -/
def firstOfEachVariable (xs : List Element) : List Element :=
  xs.eraseDupsBy fun x y => x.variableName = y.variableName

theorem firstOfEachVariable_cons (x : Element) (xs : List Element) :
    firstOfEachVariable (x :: xs) =
      x :: firstOfEachVariable (xs.filter fun y => y.variableName ≠ x.variableName) := by
  unfold firstOfEachVariable
  rw [List.eraseDupsBy_cons]
  simp

/-- Elements may be sorted out by their variables before or after. -/
theorem firstOfEachVariable_filter {q : Element → Bool}
    (hq : ∀ x y : Element, x.variableName = y.variableName → q x = q y) (xs : List Element) :
    firstOfEachVariable (xs.filter q) = (firstOfEachVariable xs).filter q := by
  -- The rest of the list gets shorter, but it is not the tail, so the induction is on the length.
  induction hn : xs.length using Nat.strongRecOn generalizing xs with
  | _ n ih =>
    cases xs with
    | nil => rfl
    | cons x xs =>
      have hlength : (xs.filter fun y => y.variableName ≠ x.variableName).length < n :=
        hn ▸ Nat.lt_succ_of_le (List.length_filter_le _ _)
      rw [firstOfEachVariable_cons]
      by_cases hx : q x = true
      · rw [List.filter_cons_of_pos hx, List.filter_cons_of_pos hx, firstOfEachVariable_cons,
          List.filter_comm, ih _ hlength _ rfl]
      · rw [List.filter_cons_of_neg hx, List.filter_cons_of_neg hx, ← ih _ hlength _ rfl,
          List.filter_filter]
        refine congrArg firstOfEachVariable (List.filter_congr fun y _ => ?_)
        by_cases hy : y.variableName = x.variableName
        · simp [hy, hq y x hy, hx]
        · simp [hy]

theorem Brief.foldl_mark (b : Brief) (xs : List Element) (filled : List FilledElement) :
    xs.foldl b.mark filled = filled ++ (firstOfEachVariable (xs.filter fun x =>
      b.isPlanned x && !filled.any (·.var = x.variableName))).map b.markOf := by
  induction xs generalizing filled with
  | nil => exact (List.append_nil _).symm
  | cons x xs ih =>
    rw [List.foldl_cons, ih, mark]
    cases hx : b.isPlanned x && !filled.any (·.var = x.variableName) with
    | true =>
      rw [List.filter_cons_of_pos (by simpa using hx), firstOfEachVariable_cons,
        List.filter_filter]
      simp only [if_true, List.map_cons, List.append_assoc, List.singleton_append]
      refine congrArg (fun ys => filled ++ b.markOf x :: (firstOfEachVariable ys).map b.markOf) ?_
      refine List.filter_congr fun y _ => ?_
      by_cases hy : y.variableName = x.variableName
      · simp [markOf, hy]
      · simp [markOf, hy, Ne.symm hy]
    | false =>
      rw [List.filter_cons_of_neg (by simpa using hx)]
      rfl

/-! ## Violations of a plan -/

/-- What the plan's otherwise steps say about some elements, for those with an invalid case. -/
def Plan.violations (plan : Plan) (xs : List Element) : List (Element × Step) :=
  xs.flatMap fun x =>
    match plan.case? x.variableName with
    | some planned =>
      if planned.verdict = .invalid then planned.otherwiseSteps.map fun s => (x, s) else []
    | none => []

/-- A step that checks what an otherwise step says about an element: the otherwise step with its
references replaced and its keyword changed, at the same place, with the name of the element in the
user interface as its comment. -/
structure IsCheckOf (b : Brief) (check : Step) (violation : Element × Step) : Prop where
  kind : check.kind = .thenStep
  location : check.location = violation.2.location
  comment : check.comment = some (b.dictionary.fromWord ++ " " ++
    literalReference (violation.1.literal b.literalCase))
  sentence : ∃ r : Resolved, r.source = violation.2 ∧ (∃ s s', r.Runs b s s') ∧
    check.content = otherwiseAsThen r.step.content b.dictionary

theorem Check.isCheckOf {b : Brief} {c : Check} {x : Element} {otherwise : Step} {s s' : Draft}
    (h : (c.literal, c.resolved.source) = (x.literal b.literalCase, otherwise))
    (hruns : c.Runs b s s') : IsCheckOf b (c.step b) (x, otherwise) := by
  obtain ⟨hliteral, hsource⟩ := Prod.mk.inj h
  refine ⟨rfl, ?_, ?_, c.resolved, hsource, ⟨s, s', hruns⟩, rfl⟩
  · show c.resolved.source.location = otherwise.location
    rw [hsource]
  · exact congrArg (fun l => some (b.dictionary.fromWord ++ " " ++ literalReference l)) hliteral

theorem flatMap_filter_of_nil {α β : Type} {q : α → Bool} {g : α → List β}
    (h : ∀ x, q x = false → g x = []) (xs : List α) : (xs.filter q).flatMap g = xs.flatMap g := by
  induction xs with
  | nil => rfl
  | cons x xs ih =>
    cases hx : q x with
    | true => rw [List.filter_cons_of_pos hx, List.flatMap_cons, List.flatMap_cons, ih]
    | false => rw [List.filter_cons_of_neg (by simp [hx]), List.flatMap_cons, ih, h x hx]; rfl

namespace Assembler

variable {a : Assembler} {scope : Scope} {scenario : List Step} {planners : List Planner}
  {plan : Plan}

theorem isPlanned_eq (hplan : plan ∈ plansOf (Survey.of scope scenario).1 planners)
    (x : Element) :
    (a.brief scope (Survey.of scope scenario).1 (some plan)).isPlanned x =
      (plan.case? x.variableName).isSome := by
  show (((Survey.of scope scenario).1.constraints.get? x.variableName).isSome &&
    (plan.case? x.variableName).isSome) = (plan.case? x.variableName).isSome
  cases hcase : plan.case? x.variableName with
  | none => simp
  | some planned => simp [isSome_constraints_of_case? hplan hcase]

/-- What the marked elements are checked for are the violations of the plan. -/
theorem violationSteps_of_marked (hplan : plan ∈ plansOf (Survey.of scope scenario).1 planners)
    (xs : List Element) :
    let b := a.brief scope (Survey.of scope scenario).1 (some plan)
    (xs.foldl b.mark []).flatMap (fun e => (b.violationSteps e.var).map fun s => (e.literal, s)) =
      (plan.violations (firstOfEachVariable xs)).map fun v => (v.1.literal b.literalCase, v.2) := by
  intro b
  have hplanned : ∀ x, b.isPlanned x = (plan.case? x.variableName).isSome := isPlanned_eq hplan
  have hvar (x y : Element) (hxy : x.variableName = y.variableName) :
      b.isPlanned x = b.isPlanned y := by rw [hplanned, hplanned, hxy]
  have hmarked : xs.foldl b.mark [] =
      ((firstOfEachVariable xs).filter b.isPlanned).map b.markOf := by
    rw [b.foldl_mark, ← firstOfEachVariable_filter hvar]
    simp
  have hsteps (x : Element) : b.violationSteps x.variableName =
      match plan.case? x.variableName with
      | some planned => if planned.verdict = .invalid then planned.otherwiseSteps else []
      | none => [] := rfl
  rw [hmarked, List.flatMap_map, flatMap_filter_of_nil, Plan.violations, List.map_flatMap]
  · refine congrArg (List.flatMap · _) (funext fun x => ?_)
    simp only [Brief.markOf, hsteps]
    cases plan.case? x.variableName with
    | none => rfl
    | some planned =>
      by_cases hinvalid : planned.verdict = .invalid
      · simp [hinvalid]
      · simp [hinvalid]
  · intro x hx
    rw [hplanned, Option.isSome_eq_false_iff, Option.isNone_iff_eq_none] at hx
    simp [Brief.markOf, hsteps, hx]

/-- The checks of a generated pre-test-case are what the otherwise steps of its plan say about the
elements with an invalid case for which an ordinary fill step leaves the value open: element by
element in the order in which such steps first fill them, step by step in the order of the plan,
with the name of the element that was filled first. -/
theorem checks_are_violations {session : Session} {p : PreTestCase}
    (hp : p ∈ (a.generate scope scenario planners session).1) :
    List.Forall₂ (IsCheckOf (a.brief scope (Survey.of scope scenario).1 (some p.plan))) p.oracles
      (p.plan.violations (firstOfEachVariable (scenario.flatMap (Step.leftOpen scope)))) := by
  obtain ⟨hplan, i, externals, external, ⟨c⟩⟩ := exists_course_of_mem_generate hp
  have hsources := c.checkSources
  rw [c.filled_eq] at hsources
  -- Check by check, source and name are those of the violation at the same place.
  have hpairs := hsources.trans (violationSteps_of_marked hplan _)
  rw [← List.forall₂_eq_eq_eq, List.forall₂_map_left_iff, List.forall₂_map_right_iff] at hpairs
  rw [c.oracles_eq, List.forall₂_map_left_iff]
  refine ((List.forall₂_and_left _ _).2 ⟨fun _ => c.checksRun.exists_of_mem, hpairs⟩).imp ?_
  rintro check ⟨x, otherwise⟩ ⟨⟨s, s', hrun⟩, hcheck⟩
  exact Check.isCheckOf hcheck hrun

def nameIsMissed : Step where
  content := "Otherwise I see \"Required\""
  kind := .otherwiseStep
  location := { line := 4, column := 7 }
  entities := [⟨.value, "Required", "\"Required\"", 16, none⟩]

/-- The name has to be given, with what happens otherwise. -/
def missedScope : Scope where
  spec := ⟨[{
    path := "name.feature"
    elements := [{
      name := "Name"
      properties := [{
        kind := .required, value := .bool true, otherwiseSteps := [nameIsMissed] }] }] }]⟩

/-- The name is left empty by two steps and checked once. -/
theorem missed_name_is_checked :
    ∃ p ∈ (generate { seed := ⟨"scenaria"⟩ } missedScope [fillingName, fillingName]
        [secondCase .onlyInvalid] {}).1,
      p.oracleLines = ["Then I see \"Required\" # from <name>"] ∧
        List.Forall₂ (IsCheckOf (brief { seed := ⟨"scenaria"⟩ } missedScope
            (Survey.of missedScope [fillingName, fillingName]).1 (some p.plan))) p.oracles
          (p.plan.violations (firstOfEachVariable
            ([fillingName, fillingName].flatMap (Step.leftOpen missedScope)))) := by
  have hchecked : ∃ p ∈ (generate { seed := ⟨"scenaria"⟩ } missedScope [fillingName, fillingName]
      [secondCase .onlyInvalid] {}).1,
      p.oracleLines = ["Then I see \"Required\" # from <name>"] := by decide +kernel
  obtain ⟨p, hp, hlines⟩ := hchecked
  exact ⟨p, hp, hlines, checks_are_violations hp⟩

end Assembler

end TestDesign
