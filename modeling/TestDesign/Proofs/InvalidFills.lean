import TestDesign.Proofs.Diagnostics
import TestDesign.Proofs.FilledElements
import TestDesign.Proofs.KeptValid

/-!
# TestDesign.Proofs.InvalidFills

Whether an invalid value is really typed. A pre-test-case is reported as invalid when its plan holds
an invalid case, and every invalid case is that of an element which some fill step names. Where an
ordinary fill step leaves the value of that element open, it types the value of the case
(`Course.exists_plannedFill`), so the report is right (`invalid_iff_received`). Where the value is
given by the steps, or typed by external steps only, it is not
(`invalid_without_invalid_fill`).
-/

namespace TestDesign

open TestDesign.Random Drafting

theorem Plan.hasInvalid_iff {plan : Plan} :
    plan.hasInvalid = true ↔
      ∃ var planned, plan.case? var = some planned ∧ planned.verdict = .invalid := by
  unfold hasInvalid case?
  simp only [List.any_eq_true, decide_eq_true_eq, Keyed.get?_eq_some_iff]
  constructor
  · rintro ⟨⟨var, planned⟩, hmem, hverdict⟩
    exact ⟨var, planned, hmem, hverdict⟩
  · rintro ⟨var, planned, hmem, hverdict⟩
    exact ⟨(var, planned), hmem, hverdict⟩

/-! ## Fills with the value of a planned case -/

/-- The fill step for the target with some number. -/
def Brief.fillStep (b : Brief) (step : Step) (action : Entity) (i : Nat) (f : Filling) : Step where
  content := b.fillSentence (if i = 0 then step.kind else .andStep) action f
  kind := if i = 0 then step.kind else .andStep
  location := { step.location with line := step.location.line + i }
  isExternal := step.isExternal
  comment := some f.comment

theorem Brief.fillStep_mem_fillSteps {b : Brief} {step : Step} {action : Entity} {i j : Nat}
    {fs : List Filling} {f : Filling} (h : fs[j]? = some f) :
    b.fillStep step action (i + j) f ∈ b.fillSteps step action i fs := by
  induction fs generalizing i j with
  | nil => cases h
  | cons first fs ih =>
    cases j with
    | zero =>
      cases h
      exact List.mem_cons_self
    | succ j =>
      have hrest := ih (i := i + 1) (j := j) h
      rw [Nat.add_assoc, Nat.add_comm 1 j] at hrest
      exact List.mem_cons_of_mem _ hrest

/-- An element that a fill step leaves open, with its planned case and a value of this case. -/
structure PlannedFill (b : Brief) (source : Step) where
  action : Entity
  /-- The number of the target. -/
  index : Nat
  target : Entity
  element : Element
  planned : PlannedCase
  constraints : Constraints
  value : Value
  isOpen : Brief.openFill? source = some (action, source.targets)
  target_eq : source.targets[index]? = some target
  element_eq : b.scope.named? target = some element
  planned_eq : b.plan.bind (·.case? element.variableName) = some planned
  constraints_eq : b.survey.constraints.get? element.variableName = some constraints
  value_given : (b.generator.generate planned.case constraints).MayGive (.ok value)

namespace PlannedFill

variable {b : Brief} {source : Step} (f : PlannedFill b source)

/-- What is typed, with the case in the comment. -/
def filling : Brief.Filling where
  literal := f.element.literal b.literalCase
  value := f.value
  comment := b.remark (some f.target.text) (f.planned.verdict = .valid)
    (b.dictionary.caseName f.planned.case.id)

/-- The step that types the value. -/
def step : Step := b.fillStep source f.action f.index f.filling

end PlannedFill

namespace Brief

variable {b : Brief} {s s' : Draft} {step : Step} {target : Entity} {f : Filling}

theorem exists_value_of_valueFor {var : String} {case : DataCase} {c : Constraints} {v : Value}
    (h : Gives (b.valueFor step var case c) s v s') :
    (b.generator.generate case c).MayGive (.ok v) := by
  unfold valueFor at h
  obtain ⟨result, s₁, hdraw, hrest⟩ := gives_bind.1 h
  cases result with
  | ok v' =>
    obtain ⟨rfl, rfl⟩ := gives_pure.1 hrest
    exact mayGive_of_draw ⟨s, _, hdraw⟩
  | error e => exact absurd hrest not_gives_throw

/-- A planned element gets a value of its case. -/
theorem filling_of_planned {x : Element} {planned : PlannedCase} {c : Constraints}
    (hx : b.scope.named? target = some x)
    (hp : b.plan.bind (·.case? x.variableName) = some planned)
    (hc : b.survey.constraints.get? x.variableName = some c)
    (h : Gives (b.fillTarget step target) s f s') :
    ∃ v, (b.generator.generate planned.case c).MayGive (.ok v) ∧
      f = ⟨x.literal b.literalCase, v, b.remark (some target.text) (planned.verdict = .valid)
        (b.dictionary.caseName planned.case.id)⟩ := by
  unfold Scope.named? at hx
  split at hx
  · rename_i hkind
    simp only [fillTarget, hkind, if_true, hx, fillElement, hc, hp] at h
    obtain ⟨v, s₁, hv, hrest⟩ := gives_bind.1 h
    obtain ⟨_, s₂, -, hrest⟩ := gives_bind.1 hrest
    obtain ⟨filling, s₃, hfilling, hrest⟩ := gives_bind.1 hrest
    obtain ⟨_, s₄, -, hpure⟩ := gives_bind.1 hrest
    have hf : f = filling := (gives_pure.1 hpure).1
    exact ⟨v, exists_value_of_valueFor hv, hf.trans (gives_pure.1 hfilling).1⟩
  · cases hx

end Brief

/-- A planned element that is left open by an expanded step gets a value of its case in one of the
steps. -/
theorem Expanded.exists_plannedFill {b : Brief} {e : Expanded} {s s' : Draft} {x : Element}
    {planned : PlannedCase} {c : Constraints} (hruns : e.Runs b s s')
    (hx : x ∈ e.source.targets.filterMap b.scope.named?)
    (hp : b.plan.bind (·.case? x.variableName) = some planned)
    (hc : b.survey.constraints.get? x.variableName = some c) :
    ∃ f : PlannedFill b e.source, f.element = x ∧ f.planned = planned ∧
      f.step ∈ (Entry.expanded e).steps b := by
  obtain ⟨target, htarget, hnamed⟩ := List.mem_filterMap.1 hx
  obtain ⟨i, hi⟩ := List.mem_iff_getElem?.1 htarget
  have hlt : i < e.fillings.length := by
    rw [e.length_eq]
    exact (List.getElem?_eq_some_iff.1 hi).1
  have hfilling : e.fillings[i]? = some e.fillings[i] := List.getElem?_eq_getElem hlt
  have hzip : (target, e.fillings[i]) ∈ e.source.targets.zip e.fillings :=
    List.mem_iff_getElem?.2 ⟨i, List.getElem?_zip_eq_some.2 ⟨hi, hfilling⟩⟩
  obtain ⟨s₁, s₂, hfill⟩ := Chained.exists_of_mem hruns hzip
  obtain ⟨v, hv, hf⟩ := Brief.filling_of_planned hnamed hp hc hfill
  refine ⟨⟨e.action, i, target, x, planned, c, v, e.isOpen, hi, hnamed, hp, hc, hv⟩, rfl, rfl, ?_⟩
  have hmem : b.fillStep e.source e.action (0 + i) e.fillings[i] ∈
      b.fillSteps e.source e.action 0 e.fillings := Brief.fillStep_mem_fillSteps hfilling
  rwa [Nat.zero_add, show e.fillings[i] = _ from hf] at hmem

variable {a : Assembler} {scope : Scope} {scenario : List Step}

/-- Every planned element that an ordinary fill step leaves open gets a value of its case. -/
theorem Course.exists_plannedFill {survey : Survey} {start : Desk} {p : PreTestCase} {source : Step}
    {x : Element} {planned : PlannedCase} {c : Constraints}
    (course : Course a scope survey scenario start p) (hsource : source ∈ scenario)
    (hx : x ∈ source.leftOpen scope) (hp : p.plan.case? x.variableName = some planned)
    (hc : survey.constraints.get? x.variableName = some c) :
    ∃ f : PlannedFill (a.brief scope survey (some p.plan)) source,
      f.element = x ∧ f.planned = planned ∧ f.step ∈ p.steps := by
  rw [← course.sources] at hsource
  obtain ⟨stage, hstage, rfl⟩ := List.mem_map.1 hsource
  obtain ⟨d, d', hrun⟩ := course.stagesRun.exists_of_mem hstage
  -- The step leaves something open, so it is neither external nor closed.
  cases stage with
  | external source out =>
    have hown : source.isExternal = false := Step.isExternal_of_mem_leftOpen hx
    simp [hrun.1] at hown
  | own e =>
    obtain ⟨hown, hentry, -⟩ := hrun
    cases e with
    | resolved r hclosed =>
      rw [Stage.source, Entry.source, Step.leftOpen_of_closed hclosed] at hx
      cases hx
    | expanded e =>
      rw [Stage.source, Step.leftOpen_of_openFill? hown e.isOpen] at hx
      obtain ⟨f, hf, hplanned, hstep⟩ := Expanded.exists_plannedFill hentry hx hp hc
      refine ⟨f, hf, hplanned, ?_⟩
      rw [course.steps_eq]
      exact List.mem_flatMap.2 ⟨_, hstage, hstep⟩

/-! ## Reported and received -/

/-- Some step types the value of an invalid case of the plan into an element that an ordinary fill
step of the scenario leaves open. -/
def PreTestCase.ReceivesInvalid (p : PreTestCase) (b : Brief) (scenario : List Step) : Prop :=
  ∃ source ∈ scenario, source.isExternal = false ∧
    ∃ f : PlannedFill b source, f.planned.verdict = .invalid ∧ f.step ∈ p.steps

namespace Assembler

variable {planners : List Planner} {session : Session} {p : PreTestCase}

/-- A generated pre-test-case is reported as invalid whenever an element receives an invalid value.
Conversely an element receives one if the pre-test-case is reported as invalid, as long as an
ordinary fill step leaves the value open for every variable with an invalid case. -/
theorem invalid_iff_received (hp : p ∈ (a.generate scope scenario planners session).1) :
    let b := a.brief scope (Survey.of scope scenario).1 (some p.plan)
    (p.ReceivesInvalid b scenario → p.hasInvalid = true) ∧
      ((∀ x ∈ Survey.filled scope scenario, ∀ planned, p.plan.case? x.variableName = some planned →
          planned.verdict = .invalid →
          ∃ y ∈ scenario.flatMap (Step.leftOpen scope), y.variableName = x.variableName) →
        p.hasInvalid = true → p.ReceivesInvalid b scenario) := by
  intro b
  obtain ⟨hplan, i, externals, external, ⟨course⟩⟩ := exists_course_of_mem_generate hp
  constructor
  · rintro ⟨source, -, -, f, hinvalid, -⟩
    exact Plan.hasInvalid_iff.2 ⟨_, _, f.planned_eq, hinvalid⟩
  · intro hopen hreported
    obtain ⟨var, planned, hcase, hinvalid⟩ := Plan.hasInvalid_iff.1 hreported
    obtain ⟨x, hx, rfl, -⟩ := exists_element_of_case? hplan hcase
    obtain ⟨y, hy, hvar⟩ := hopen x hx planned hcase hinvalid
    obtain ⟨source, hsource, hleft⟩ := List.mem_flatMap.1 hy
    rw [← hvar] at hcase
    obtain ⟨c, hc⟩ := Option.isSome_iff_exists.1 (isSome_constraints_of_case? hplan hcase)
    obtain ⟨f, -, hplanned, hstep⟩ := course.exists_plannedFill hsource hleft hcase hc
    exact ⟨source, hsource, Step.isExternal_of_mem_leftOpen hleft, f, hplanned ▸ hinvalid, hstep⟩

/-- The pre-test-cases in which the name is to have an invalid value. -/
def invalidNames (scenario : List Step) : List PreTestCase :=
  (generate { seed := ⟨"scenaria"⟩ } nameScope scenario [secondCase .onlyInvalid] {}).1

theorem empty_name_is_received : ∃ p ∈ invalidNames [fillingName], p.hasInvalid = true ∧
    p.ReceivesInvalid (brief { seed := ⟨"scenaria"⟩ } nameScope
      (Survey.of nameScope [fillingName]).1 (some p.plan)) [fillingName] := by
  have hreported : ∃ p ∈ invalidNames [fillingName], p.hasInvalid = true := by decide +kernel
  obtain ⟨p, hp, hinvalid⟩ := hreported
  exact ⟨p, hp, hinvalid, (invalid_iff_received hp).2 (fun x hx _ _ _ => ⟨x, hx, rfl⟩) hinvalid⟩

def typingName : Step where
  content := "When I fill \x7bName\x7d with \"x\""
  kind := .whenStep
  location := {}
  entities := [⟨.action, "fill", "fill", 7, none⟩, ⟨.element, "Name", "\x7bName\x7d", 12, none⟩,
    ⟨.value, "x", "\"x\"", 24, none⟩]

/-- The plan leaves the name empty, but the only step that fills it gives the name itself. -/
theorem invalid_without_invalid_fill :
    ¬ ∀ (a : Assembler) (scope : Scope) (scenario : List Step) (planners : List Planner),
      ∀ p ∈ (a.generate scope scenario planners {}).1, p.hasInvalid = true ↔
        p.ReceivesInvalid (a.brief scope (Survey.of scope scenario).1 (some p.plan)) scenario := by
  intro h
  have hreported : ∃ p ∈ invalidNames [typingName], p.hasInvalid = true := by decide +kernel
  obtain ⟨p, hp, hinvalid⟩ := hreported
  obtain ⟨source, hsource, -, f, -, -⟩ := (h _ _ _ _ p hp).1 hinvalid
  cases List.mem_singleton.1 hsource
  have hclosed : Brief.openFill? typingName = none := by decide
  rw [f.isOpen] at hclosed
  cases hclosed

end Assembler

end TestDesign
