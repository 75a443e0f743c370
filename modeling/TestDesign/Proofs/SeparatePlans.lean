import TestDesign.Proofs.UnreadReports

/-!
# TestDesign.Proofs.SeparatePlans

Plans do not disturb each other. A plan goes on from the session that the plans before it have left,
but what it makes of it is what it makes of a fresh session, merged into the one that it found
(`afterPlan_eq_merge`). `generate_eq_merge_alone`: generating all pre-test-cases of a scenario without
external steps is the same as assembling every plan alone, in a fresh session and from the stream of
its number, and putting the outcomes together afterwards.
-/

namespace TestDesign

open TestDesign.Random

/-- What comes of a plan, and what it reports. -/
structure PlanOutcome where
  result : Except Diagnostic PreTestCase
  session : Session

namespace Session

/-- Pushes what a plan reports, and then the reason why the plan was given up, if it was. -/
def merge (s : Session) (o : PlanOutcome) : Session :=
  let s := o.session.warnings.foldl pushWarning (o.session.errors.foldl pushError s)
  match o.result with
  | .ok _ => s
  | .error d => s.pushError d

theorem foldl_pushError (s : Session) (ds : List Diagnostic) :
    ds.foldl pushError s = { s with errors := ds.foldl report s.errors } := by
  induction ds generalizing s with
  | nil => rfl
  | cons d ds ih => exact ih (s.pushError d)

theorem foldl_pushWarning (s : Session) (ds : List Diagnostic) :
    ds.foldl pushWarning s = { s with warnings := ds.foldl report s.warnings } := by
  induction ds generalizing s with
  | nil => rfl
  | cons d ds ih => exact ih (s.pushWarning d)

/-- Notes may be collected in a fresh session first. -/
theorem pushAll_fresh (s : Session) (ns : List Note) :
    (({} : Session).pushAll ns).warnings.foldl pushWarning
      ((({} : Session).pushAll ns).errors.foldl pushError s) = s.pushAll ns := by
  simp only [foldl_pushError, foldl_pushWarning, pushAll, Reports.pushAll_eq, foldl_report_report,
    List.foldl_nil]

end Session

namespace Assembler

variable (a : Assembler) (scope : Scope) (survey : Survey) (scenario : List Step)

/-- The assembly of a plan with its number, as if there were no others. -/
def alone (numbered : Plan × Nat) : PlanOutcome :=
  let (result, desk) := a.assemble scope survey numbered.1 scenario
    (a.freshDesk numbered.2 {} a.externalSeed.stream)
  { result, session := desk.session }

theorem result_alone (h : ∀ s ∈ scenario, s.isExternal = false) (plan : Plan) (i : Nat) :
    (a.alone scope survey scenario (plan, i)).result =
      ((a.brief scope survey (some plan)).testCase plan scenario
        { stream := (a.seed.nth i).stream }).1 := by
  rw [alone, assemble_eq_onDraft a scope survey plan h]
  rfl

/-- In whatever session a plan is assembled, its result is the same, and the same notes come behind
what is there. -/
theorem exists_assemble_eq (h : ∀ s ∈ scenario, s.isExternal = false) (numbered : Plan × Nat) :
    ∃ (result : Except Diagnostic PreTestCase) (draft : Draft) (ns : List Note),
      ∀ (session : Session) (external : Stream),
        a.assemble scope survey numbered.1 scenario (a.freshDesk numbered.2 session external) =
          (result, ⟨{ draft with reports := session.toReports.pushAll ns }, session.externals,
            external⟩) := by
  let b := a.brief scope survey (some numbered.1)
  let fresh : Draft := { stream := (a.seed.nth numbered.2).stream }
  obtain ⟨ns, hns⟩ := b.unread_testCase numbered.1 scenario fresh
  refine ⟨(b.testCase numbered.1 scenario fresh).1, (b.testCase numbered.1 scenario fresh).2, ns,
    fun session external => ?_⟩
  have hrun : b.testCase numbered.1 scenario (a.freshDesk numbered.2 session external).draft = _ :=
    hns session.toReports
  rw [assemble_eq_onDraft a scope survey numbered.1 h, Desk.onDraft, hrun]
  rfl

/-- A plan leaves any session with what it leaves when it is alone. -/
theorem afterPlan_eq_merge (h : ∀ s ∈ scenario, s.isExternal = false) (numbered : Plan × Nat)
    (session : Session) (external : Stream) :
    let (result, desk) := a.assemble scope survey numbered.1 scenario
      (a.freshDesk numbered.2 session external)
    result = (a.alone scope survey scenario numbered).result ∧
      desk.afterPlan result = session.merge (a.alone scope survey scenario numbered) := by
  obtain ⟨result, draft, ns, hrun⟩ := exists_assemble_eq a scope survey scenario h numbered
  have halone : a.alone scope survey scenario numbered = ⟨result, ({} : Session).pushAll ns⟩ := by
    rw [alone, hrun]
    rfl
  rw [hrun, halone]
  have hmerged := session.pushAll_fresh ns
  cases result with
  | ok p => exact ⟨rfl, hmerged.symm⟩
  | error d => exact ⟨rfl, congrArg (·.pushError d) hmerged.symm⟩

theorem assembleAll_eq_merge_alone (h : ∀ s ∈ scenario, s.isExternal = false)
    (plans : List (Plan × Nat)) (session : Session) (external : Stream) :
    a.assembleAll scope survey scenario plans session external =
      ((plans.map (a.alone scope survey scenario)).filterMap (·.result.toOption),
        (plans.map (a.alone scope survey scenario)).foldl Session.merge session) := by
  -- Earlier plans have left their reports and have drawn for external steps.
  induction plans generalizing session external with
  | nil => rfl
  | cons numbered plans ih =>
    have hplan := afterPlan_eq_merge a scope survey scenario h numbered session external
    cases hassemble : a.assemble scope survey numbered.1 scenario
        (a.freshDesk numbered.2 session external) with
    | mk result desk =>
      rw [hassemble] at hplan
      obtain ⟨hresult, hsession⟩ := hplan
      cases result with
      | ok p =>
        rw [assembleAll_of_ok hassemble, ih]
        simp only [List.map_cons, List.foldl_cons, List.filterMap_cons, ← hresult, ← hsession]
        rfl
      | error d =>
        rw [assembleAll_of_error hassemble, ih]
        simp only [List.map_cons, List.foldl_cons, List.filterMap_cons, ← hresult, ← hsession]
        rfl

/-- The pre-test-cases are those of the plans that can be assembled alone, in the order of the
plans. After the faults of the survey come the diagnostics of the plans, each as the plan has them
alone, and the reason for giving up a plan comes last. -/
theorem generate_eq_merge_alone {scenario : List Step}
    (h : ∀ s ∈ scenario, s.isExternal = false) (planners : List Planner) (session : Session) :
    let (survey, faults) := Survey.of scope scenario
    let outcomes := (plansOf survey planners).zipIdx.map (a.alone scope survey scenario)
    a.generate scope scenario planners session =
      (outcomes.filterMap (·.result.toOption),
        outcomes.foldl Session.merge (session.pushAll faults)) :=
  assembleAll_eq_merge_alone a scope _ scenario h _ _ _

/-- What is to happen for a minor, with an entity that does not stand where it says. -/
def refusingMinor : Step where
  content := "Otherwise I see [hint]"
  kind := .otherwiseStep
  location := { line := 4, column := 7 }
  entities := [⟨.constant, "hint", "[hint]", 15, none⟩]

def adults : Scope where
  spec := ⟨[doc]⟩
  here := some doc
where
  doc : Document := {
    path := "age.feature"
    elements := [{
      name := "Age"
      properties := [{ kind := .minValue, value := .int 18, otherwiseSteps := [refusingMinor] }] }] }

def fillingAdultAge : Step where
  content := "When I fill \x7bAge\x7d"
  kind := .whenStep
  location := { line := 7, column := 3 }
  entities := [⟨.action, "fill", "fill", 7, none⟩, ⟨.element, "Age", "\x7bAge\x7d", 12, none⟩]

def greetedWith : Step where
  content := "Then I see [nope]"
  kind := .thenStep
  location := { line := 8, column := 3 }
  entities := [⟨.constant, "nope", "[nope]", 11, none⟩]

/-- Two adults and between them a minor. -/
def visitors : List Planner :=
  [⟨⟨.onlyValid, .indexOfEach 0⟩, ⟨"scenaria"⟩⟩, ⟨⟨.onlyInvalid, .indexOfEach 0⟩, ⟨"scenaria"⟩⟩,
    ⟨⟨.onlyValid, .indexOfEach 1⟩, ⟨"scenaria"⟩⟩]

/-- The second plan is given up, and all of them warn of the same constant. -/
theorem visitors_eq_merge_alone :
    let a : Assembler := { seed := ⟨"scenaria"⟩ }
    let scenario := [fillingAdultAge, greetedWith]
    let (survey, faults) := Survey.of adults scenario
    let outcomes := (plansOf survey visitors).zipIdx.map (a.alone adults survey scenario)
    let run := a.generate adults scenario visitors {}
    let warning : Diagnostic := .unresolvedConstant "nope" ⟨some "age.feature", 8, 3⟩
    (∀ s ∈ scenario, s.isExternal = false) ∧
      run = (outcomes.filterMap (·.result.toOption),
        outcomes.foldl Session.merge (({} : Session).pushAll faults)) ∧
      outcomes.map (·.result.toOption.isSome) = [true, false, true] ∧
      (∀ o ∈ outcomes, o.session.warnings = [warning]) ∧ run.2.warnings = [warning] ∧
      run.2.errors = [.malformedReference "[hint]" ⟨some "age.feature", 4, 7⟩] := by
  intro a scenario
  have h : ∀ s ∈ scenario, s.isExternal = false := by decide
  exact ⟨h, generate_eq_merge_alone a adults h visitors {}, by decide +kernel, by decide +kernel,
    by decide +kernel, by decide +kernel⟩

end Assembler

end TestDesign
