import TestDesign.Proofs.Diagnostics
import TestDesign.Proofs.EntityPlaces
import TestDesign.Proofs.PlannedCases

/-!
# TestDesign.Proofs.RecognizedSteps

The entities of steps that come from sentences always stand where they say (`recognized_in_place`), so
a run on such steps never gives up a plan because of an entity that does not.
-/

namespace TestDesign

open TestDesign.Random Text

/-- The step has the sentence and the entities of a recognized one; kind, place and comment may be
others. -/
def Step.IsRecognized (step : Step) : Prop :=
  ∃ d sentence location s, recognize d sentence location = .ok s ∧
    step.content = s.content ∧ step.entities = s.entities

theorem Step.IsRecognized.checkEntities_eq_ok {step : Step} (h : step.IsRecognized) :
    step.checkEntities = .ok () := by
  obtain ⟨d, sentence, location, s, hs, hcontent, hentities⟩ := h
  rw [checkEntities, hcontent, hentities]
  exact checkEntities_of_recognize hs

/-- The steps of the scenario come from sentences, and so do those that the properties of filled
elements declare for their violation. -/
structure FromSentences (scope : Scope) (scenario : List Step) : Prop where
  steps : ∀ step ∈ scenario, step.IsRecognized
  violations : ∀ x ∈ Survey.filled scope scenario, ∀ p ∈ x.properties, ∀ o ∈ p.otherwiseSteps,
    o.IsRecognized

variable {a : Assembler} {scope : Scope} {scenario : List Step} {planners : List Planner}
  {plan : Plan} {text : String} {l : Location}

theorem Brief.not_malformed {b : Brief} {step : Step} (h : step.IsRecognized) :
    ¬ b.MayReport step (.malformedReference text l) := by
  intro hreport
  cases hreport with
  | misplaced he =>
    rw [h.checkEntities_eq_ok] at he
    cases he

theorem Element.exists_property_of_otherwiseSteps {x : Element} {kind : Option PropertyKind}
    {o : Step} (h : o ∈ x.otherwiseSteps kind) : ∃ p ∈ x.properties, o ∈ p.otherwiseSteps := by
  unfold Element.otherwiseSteps at h
  split at h
  · rename_i p hp
    obtain ⟨k, -, hfound⟩ := Option.bind_eq_some_iff.1 hp
    exact ⟨p, List.mem_of_find?_eq_some hfound, h⟩
  · cases h

namespace Assembler

/-- What is checked after a planned case is declared by a property of a filled element. -/
theorem exists_property_of_violationSteps {var : String} {o : Step}
    (hplan : plan ∈ plansOf (Survey.of scope scenario).1 planners)
    (h : o ∈ (a.brief scope (Survey.of scope scenario).1 (some plan)).violationSteps var) :
    ∃ x ∈ Survey.filled scope scenario, ∃ p ∈ x.properties, o ∈ p.otherwiseSteps := by
  unfold Brief.violationSteps at h
  split at h
  · rename_i planned hplanned
    obtain ⟨x, hx, -, c, -, hcase, -⟩ := exists_element_of_case? hplan hplanned
    split at h
    · rw [hcase] at h
      simp only [Element.plannedCase] at h
      split at h
      · exact ⟨x, hx, Element.exists_property_of_otherwiseSteps h⟩
      · cases h
    · cases h
  · cases h

theorem not_malformed (h : FromSentences scope scenario)
    (hplan : plan ∈ plansOf (Survey.of scope scenario).1 planners) :
    ¬ a.MayReport scope (Survey.of scope scenario).1 plan scenario
      (.malformedReference text l) := by
  intro hreport
  cases hreport with
  | step hstep hp hreport => exact Brief.not_malformed (h.steps _ hstep) hreport
  | check hreport =>
    obtain ⟨var, o, ho, hreport⟩ := hreport
    obtain ⟨x, hx, p, hp, hmem⟩ := exists_property_of_violationSteps hplan ho
    exact Brief.not_malformed (h.violations x hx p hp o hmem) hreport

/-- The entities of a recognized step follow one another in its sentence without overlapping, the
bytes at the position of each are its text, they are accepted, and the sentence can be cut at them. So
no plan is given up because of a malformed reference, and none is reported, where all steps come from
sentences. -/
theorem recognized_in_place :
    (∀ (d : Dictionary) (sentence : String) (location : Location) (step : Step),
      recognize d sentence location = .ok step →
        step.entities.Pairwise (fun e f => e.position < f.position ∧ e.stop ≤ f.position) ∧
        (∀ e ∈ step.entities,
          slice? step.content.toList e.position e.text.utf8ByteSize = some e.text.toList) ∧
        step.checkEntities = .ok () ∧ ∃ g, step.segments = .ok g) ∧
    ∀ (a : Assembler) (scope : Scope) (scenario : List Step) (planners : List Planner),
      FromSentences scope scenario → ∀ (text : String) (l : Location),
        (∀ plan ∈ plansOf (Survey.of scope scenario).1 planners, ∀ desk : Desk,
          (a.assemble scope (Survey.of scope scenario).1 plan scenario desk).1 ≠
            .error (.malformedReference text l)) ∧
        ∀ session : Session,
          .malformedReference text l ∈ (a.generate scope scenario planners session).2.errors →
            .malformedReference text l ∈ session.errors := by
  refine ⟨?_, ?_⟩
  · intro d sentence location step h
    have hplaces := inPlace_of_recognize h
    exact ⟨hplaces.pairwise, fun e he => hplaces.slice [] he, checkEntities_of_recognize h,
      hplaces.exists_cut⟩
  · intro a scope scenario planners h text l
    refine ⟨?_, ?_⟩
    · intro plan hplan desk hfail
      obtain ⟨-, hreports⟩ := reportsOnly_mayReport a scope (Survey.of scope scenario).1 plan
        scenario desk
      exact not_malformed h hplan (hreports _ hfail)
    · intro session hmem
      rcases mayReport_of_mem_errors hmem with hold | ⟨_, _, _, hconfiguration⟩ |
        ⟨plan, hplan, hreport⟩
      · exact hold
      · cases hconfiguration
      · exact absurd hreport (not_malformed h hplan)

def pouringTea : Step where
  content := "When I fill \x7bThé\x7d with 5"
  kind := .whenStep
  location := {}
  entities := [⟨.action, "fill", "fill", 7, none⟩, ⟨.element, "Thé", "\x7bThé\x7d", 12, none⟩,
    ⟨.number, "5", "5", 24, none⟩]

def teaScope : Scope where
  spec := ⟨[{ path := "tea.feature", elements := [{ name := "Thé" }] }]⟩

/-- The number stands behind a letter of two bytes. -/
theorem pouringTea_in_place :
    recognize .english " When I fill \x7bThé\x7d with 5" {} = .ok pouringTea ∧
      slice? pouringTea.content.toList 24 1 = some ['5'] ∧
      ∀ desk text l,
        (assemble { seed := ⟨"scenaria"⟩ } teaScope (Survey.of teaScope [pouringTea]).1 {}
          [pouringTea] desk).1 ≠ .error (.malformedReference text l) := by
  have hrecognized : recognize .english " When I fill \x7bThé\x7d with 5" {} = .ok pouringTea :=
    eq_ok_of_toOption (by decide +kernel)
  obtain ⟨-, hslice, -⟩ := recognized_in_place.1 _ _ _ _ hrecognized
  have hsentences : FromSentences teaScope [pouringTea] := by
    refine ⟨?_, ?_⟩
    · intro step hstep
      cases List.mem_singleton.1 hstep
      exact ⟨_, _, _, _, hrecognized, rfl, rfl⟩
    · intro x hx p hp
      have hplain : ∀ x ∈ Survey.filled teaScope [pouringTea], x.properties = [] := by
        decide +kernel
      rw [hplain x hx] at hp
      cases hp
  refine ⟨hrecognized, hslice ⟨.number, "5", "5", 24, none⟩ (by decide), ?_⟩
  intro desk text l
  exact (recognized_in_place.2 _ teaScope [pouringTea] [] hsentences text l).1 {} (by decide) desk

end Assembler

end TestDesign
