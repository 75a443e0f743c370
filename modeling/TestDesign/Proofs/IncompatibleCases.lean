import TestDesign.Proofs.CaseOutcomes
import TestDesign.Proofs.Diagnostics
import TestDesign.Proofs.PlannedCases

/-!
# TestDesign.Proofs.IncompatibleCases

When a run reports that a case is incompatible with its element. A plan holds compatible cases only,
but the case comes from the first filled element with a variable and the value from the last one
(`Proofs.PlannedCases`). `divided_of_incompatible`: two elements with one variable that differ on
the case are the only reason for such a report.
-/

namespace TestDesign

open TestDesign.Random

variable {c : Constraints} {case : DataCase} {scope : Scope} {scenario : List Step}
  {var : String}

/-- A value is refused as incompatible only for the case that was asked for, and only by its
verdict. -/
theorem Generator.incompatible_of_mayGive {g : Generator} {e : Element} {case' : DataCase}
    {t : DataType} (h : Constraints.ofElement e = .ok c)
    (hx : (g.generate case c).MayGive (.error (.incompatible case' t))) :
    case' = case ∧ c.verdict case = .incompatible := by
  obtain ⟨hread, hcheck⟩ := Constraints.ofElement_eq_ok h
  have hgiven := (g.always_generate hread hcheck case).of_mayGive hx
  split at hgiven
  · rename_i hv
    cases hgiven
    exact ⟨rfl, hv⟩
  · exact absurd hgiven Outcome.not_incompatible

theorem Constraints.verdict_of_validCase (h : c.validCase.MayGive case) :
    c.verdict case = .valid := by
  have hvalid : c.validCase.Always fun case => c.verdict case = .valid :=
    c.always_validCase.mono fun _ hcase => hcase.1
  exact hvalid.of_mayGive h

/-- Two filled elements have the variable, and the case suits the one and not the other. -/
def Survey.Divided (scope : Scope) (scenario : List Step) (var : String) (case : DataCase) : Prop :=
  ∃ x ∈ filled scope scenario, ∃ y ∈ filled scope scenario,
    x.variableName = var ∧ y.variableName = var ∧
    ∃ c d, Constraints.ofElement x = .ok c ∧ Constraints.ofElement y = .ok d ∧
      c.verdict case ≠ .incompatible ∧ d.verdict case = .incompatible

namespace Assembler

variable {a : Assembler} {planners : List Planner} {t : DataType} {l : Location}

theorem exists_element_of_constraintsOf {p : Option Plan} {x : Element}
    (h : (a.brief scope (Survey.of scope scenario).1 p).constraintsOf x = .ok c) :
    ∃ y, Constraints.ofElement y = .ok c := by
  unfold Brief.constraintsOf at h
  split at h
  · rename_i c' hc
    obtain ⟨y, -, -, hy⟩ := Survey.exists_element_of_get?_constraints hc
    cases h
    exact ⟨y, hy⟩
  · exact ⟨x, h⟩

theorem divided_of_mayReport {step : Step} {p : Option Plan}
    (hp : ∀ plan ∈ p, plan ∈ plansOf (Survey.of scope scenario).1 planners)
    (h : (a.brief scope (Survey.of scope scenario).1 p).MayReport step
      (.contract var (.incompatible case t) l)) :
    Survey.Divided scope scenario var case := by
  cases h with
  | planned hc hplanned hgive =>
    obtain ⟨plan, hplan, hcase⟩ := Option.bind_eq_some_iff.1 hplanned
    obtain ⟨x, hx, hxvar, d, hd, -, hcompatible⟩ :=
      exists_element_of_case? (hp plan hplan) hcase
    obtain ⟨y, hy, hyvar, hread⟩ := Survey.exists_element_of_get?_constraints hc
    obtain ⟨rfl, hincompatible⟩ := Generator.incompatible_of_mayGive hread hgive
    exact ⟨x, hx, y, hy, hxvar, hyvar, d, _, hd, hread, hcompatible, hincompatible⟩
  | unplanned hc hcase hgive =>
    obtain ⟨y, -, -, hread⟩ := Survey.exists_element_of_get?_constraints hc
    obtain ⟨rfl, hincompatible⟩ := Generator.incompatible_of_mayGive hread hgive
    rw [Constraints.verdict_of_validCase hcase] at hincompatible
    cases hincompatible
  | referred hc hgive =>
    obtain ⟨y, hread⟩ := exists_element_of_constraintsOf hc
    obtain ⟨-, hincompatible⟩ := Generator.incompatible_of_mayGive hread hgive
    cases hincompatible

/-- A run reports a case as incompatible only where two filled elements have the same variable and
the case suits one of them and not the other. -/
theorem divided_of_incompatible {session : Session}
    (h : .contract var (.incompatible case t) l ∈
      (a.generate scope scenario planners session).2.errors)
    (hnew : .contract var (.incompatible case t) l ∉ session.errors) :
    Survey.Divided scope scenario var case := by
  rcases mayReport_of_mem_errors h with hold | ⟨_, _, _, hconfiguration⟩ | ⟨plan, hplan, hreport⟩
  · exact absurd hold hnew
  · cases hconfiguration
  · have hsome : ∀ p ∈ some plan, p ∈ plansOf (Survey.of scope scenario).1 planners := by
      rintro p ⟨⟩
      exact hplan
    have hnone : ∀ p ∈ (none : Option Plan), p ∈ plansOf (Survey.of scope scenario).1 planners := by
      rintro p ⟨⟩
    cases hreport with
    | step hstep hp hreport =>
      rcases hp with rfl | rfl
      · exact divided_of_mayReport hsome hreport
      · exact divided_of_mayReport hnone hreport
    | check hreport =>
      obtain ⟨_, otherwise, -, hreport⟩ := hreport
      exact divided_of_mayReport hsome hreport

/-- Two documents declare a note of a feature with the same name. The variable with the feature
finds the note of the first document, the bare name that of the current one. -/
def twoNotes : Scope where
  spec := ⟨[numeric, worded]⟩
  here := some worded
where
  note (p : Property) : Document → Document := fun doc => { doc with feature := some {
    name := "Feature"
    elements := [{ name := "Note", feature := some "Feature", properties := [p] }] } }
  numeric : Document :=
    note { kind := .minValue, value := .int 1 } { path := "a.feature" }
  worded : Document :=
    note { kind := .value, value := .text "x" } { path := "b.feature" }

def fillingBoth : List Step := [
  { content := "When I fill \x7bFeature:Note\x7d", kind := .whenStep, location := {}
    entities := [⟨.action, "fill", "fill", 7, none⟩,
      ⟨.element, "Feature:Note", "\x7bFeature:Note\x7d", 12, none⟩] },
  { content := "And I fill \x7bNote\x7d", kind := .andStep, location := {}
    entities := [⟨.action, "fill", "fill", 6, none⟩,
      ⟨.element, "Note", "\x7bNote\x7d", 11, none⟩] }]

def firstValid : Planner where
  mix := .onlyValid
  combination := .indexOfEach 0
  seed := ⟨"scenaria"⟩

def minimumOfWords : Diagnostic :=
  .contract "Feature:Note" (.incompatible (.value .min) .string) { file := some "b.feature" }

/-- The minimum is planned for the numeric note and asked of the worded one. -/
theorem minimumOfWords_mem_errors :
    minimumOfWords ∈
      (generate { seed := ⟨"scenaria"⟩ } twoNotes fillingBoth [firstValid] {}).2.errors := by
  decide +kernel

theorem twoNotes_divided :
    minimumOfWords ∈
        (generate { seed := ⟨"scenaria"⟩ } twoNotes fillingBoth [firstValid] {}).2.errors ∧
      Survey.Divided twoNotes fillingBoth "Feature:Note" (.value .min) :=
  ⟨minimumOfWords_mem_errors, divided_of_incompatible minimumOfWords_mem_errors (by decide)⟩

theorem incompatible_is_reported :
    ¬ ∀ (a : Assembler) (scope : Scope) (scenario : List Step) (planners : List Planner),
      ∀ d ∈ (a.generate scope scenario planners {}).2.errors,
        ∀ var case t l, d ≠ .contract var (.incompatible case t) l := by
  intro h
  exact h _ _ _ _ minimumOfWords minimumOfWords_mem_errors _ _ _ _ rfl

end Assembler

end TestDesign
