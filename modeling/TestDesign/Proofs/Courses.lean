import TestDesign.Proofs.Transcript

/-!
# TestDesign.Proofs.Courses

The course of the assembly of a plan, for scenarios that may have external steps: what became of
each step, what was on the desk after the last one, and the checks that followed.
`exists_course_of_mem_generate`: every pre-test-case of a run has the course of one of the plans of
its planners.

Results on generated test cases are read off their courses; what a single step of the assembly does
is known from its entries (`Proofs.Transcript`).
-/

namespace TestDesign

open TestDesign.Random Drafting

/-- What became of a step of a scenario that may have external steps. -/
inductive Stage where
  | external (source : Step) (out : List Step)
  | own (e : Entry)

namespace Stage

def source : Stage → Step
  | external source _ => source
  | own e => e.source

def steps (b : Brief) : Stage → List Step
  | external _ out => out
  | own e => e.steps b

/-- An external step is taken from the desk or assembled apart; the others go on with the draft of
the plan. -/
def Runs (a : Assembler) (scope : Scope) (survey : Survey) (plan : Plan) (d : Desk) (s : Stage)
    (d' : Desk) : Prop :=
  match s with
  | external source out =>
    source.isExternal = true ∧ a.externalStep scope survey source d = (.ok out, d')
  | own e =>
    e.source.isExternal = false ∧ e.Runs (a.brief scope survey (some plan)) d.draft d'.draft ∧
      d' = { d with draft := d'.draft }

end Stage

/-- How a pre-test-case was assembled from what was on the desk. -/
structure Course (a : Assembler) (scope : Scope) (survey : Survey) (scenario : List Step)
    (start : Desk) (p : PreTestCase) where
  stages : List Stage
  sources : stages.map Stage.source = scenario
  /-- The desk after the last step. -/
  desk : Desk
  stagesRun : Chained (Stage.Runs a scope survey p.plan) start stages desk
  checks : List Check
  checkSources : checks.map (fun c => (c.literal, c.resolved.source)) =
    desk.draft.filled.flatMap fun e =>
      ((a.brief scope survey (some p.plan)).violationSteps e.var).map fun s => (e.literal, s)
  /-- The draft after the last check. -/
  last : Draft
  checksRun : Chained (Check.Runs (a.brief scope survey (some p.plan))) desk.draft checks last
  steps_eq : p.steps = stages.flatMap (Stage.steps (a.brief scope survey (some p.plan)))
  oracles_eq : p.oracles = checks.map (·.step (a.brief scope survey (some p.plan)))

namespace Assembler

variable {a : Assembler} {scope : Scope} {survey : Survey} {plan : Plan} {scenario : List Step}
  {desk desk' : Desk} {p : PreTestCase}

theorem stage_of_step {step : Step} {out : List Step}
    (h : a.step scope survey plan step desk = (.ok out, desk')) :
    ∃ s : Stage, s.source = step ∧ out = s.steps (a.brief scope survey (some plan)) ∧
      s.Runs a scope survey plan desk desk' := by
  unfold Assembler.step at h
  split at h
  · rename_i hexternal
    exact ⟨.external step out, rfl, rfl, hexternal, h⟩
  · rename_i hown
    obtain ⟨hgives, hdesk⟩ := Desk.gives_of_onDraft h
    obtain ⟨e, rfl, rfl, hruns⟩ := runs_of_steps hgives
    exact ⟨.own e, rfl, rfl, Bool.eq_false_iff.2 hown, hruns, hdesk⟩

theorem stages_of_steps {out : List Step}
    (h : a.steps scope survey plan scenario desk = (.ok out, desk')) :
    ∃ stages : List Stage, stages.map Stage.source = scenario ∧
      out = stages.flatMap (Stage.steps (a.brief scope survey (some plan))) ∧
      Chained (Stage.Runs a scope survey plan) desk stages desk' := by
  induction scenario generalizing desk out with
  | nil =>
    cases h
    exact ⟨[], rfl, rfl, rfl⟩
  | cons step scenario ih =>
    unfold Assembler.steps at h
    obtain ⟨first, desk₁, hfirst, hrest⟩ := run_bind_eq_ok.1 h
    obtain ⟨rest, desk₂, hothers, hpure⟩ := run_bind_eq_ok.1 hrest
    cases hpure
    obtain ⟨s, rfl, rfl, hruns⟩ := stage_of_step hfirst
    obtain ⟨stages, rfl, rfl, hrunsAll⟩ := ih hothers
    exact ⟨s :: stages, rfl, rfl, desk₁, hruns, hrunsAll⟩

/-- Every pre-test-case that is assembled has a course, after which only checks follow. -/
theorem exists_course (h : a.assemble scope survey plan scenario desk = (.ok p, desk')) :
    p.plan = plan ∧ ∃ c : Course a scope survey scenario desk p,
      c.desk.externals = desk'.externals := by
  unfold assemble at h
  obtain ⟨steps, desk₁, hsteps, hrest⟩ := run_bind_eq_ok.1 h
  obtain ⟨oracles, desk₂, horacles, hpure⟩ := run_bind_eq_ok.1 hrest
  cases hpure
  obtain ⟨stages, hsources, rfl, hruns⟩ := stages_of_steps hsteps
  obtain ⟨hgives, hdesk⟩ := Desk.gives_of_onDraft horacles
  unfold Brief.oracles at hgives
  obtain ⟨s₁, s₂, hget, hgives⟩ := gives_bind.1 hgives
  obtain ⟨rfl, rfl⟩ := gives_get.1 hget
  obtain ⟨checks, hcheckSources, rfl, hchecks⟩ := runs_of_oraclesFor hgives
  refine ⟨rfl, ⟨stages, hsources, desk₁, hruns, checks, hcheckSources, _, hchecks, rfl, rfl⟩, ?_⟩
  exact (congrArg Desk.externals hdesk).symm

/-- Where a pre-test-case of a run comes from: the assembly of a plan succeeded, and the run went on
from the desk that it left. -/
theorem exists_assembly_of_mem_assembleAll {plans : List (Plan × Nat)} {session : Session}
    {external : Stream}
    (h : p ∈ (a.assembleAll scope survey scenario plans session external).1) :
    ∃ numbered ∈ plans, ∃ session₁ external₁ desk,
      a.assemble scope survey numbered.1 scenario (a.freshDesk numbered.2 session₁ external₁) =
        (.ok p, desk) ∧
      ∃ later, (a.assembleAll scope survey scenario plans session external).2 =
        (a.assembleAll scope survey scenario later desk.session desk.externalStream).2 := by
  induction plans generalizing session external with
  | nil => cases h
  | cons numbered plans ih =>
    cases hassemble : a.assemble scope survey numbered.1 scenario
        (a.freshDesk numbered.2 session external) with
    | mk result desk =>
      cases result with
      | ok p' =>
        rw [assembleAll_of_ok hassemble] at h ⊢
        rcases List.mem_cons.1 h with rfl | h
        · exact ⟨numbered, List.mem_cons_self, _, _, desk, hassemble, plans, rfl⟩
        · obtain ⟨numbered, hmem, hassembly⟩ := ih h
          exact ⟨numbered, List.mem_cons_of_mem _ hmem, hassembly⟩
      | error e =>
        rw [assembleAll_of_error hassemble] at h ⊢
        obtain ⟨numbered, hmem, hassembly⟩ := ih h
        exact ⟨numbered, List.mem_cons_of_mem _ hmem, hassembly⟩

/-- A generated pre-test-case has the course of a plan of the planners. -/
theorem exists_course_of_mem_generate {planners : List Planner} {session : Session}
    (h : p ∈ (a.generate scope scenario planners session).1) :
    p.plan ∈ plansOf (Survey.of scope scenario).1 planners ∧ ∃ i session₁ external,
      Nonempty (Course a scope (Survey.of scope scenario).1 scenario
        (a.freshDesk i session₁ external) p) := by
  unfold generate at h
  obtain ⟨⟨plan, i⟩, hmem, session₁, external, desk, hassemble, -⟩ :=
    exists_assembly_of_mem_assembleAll h
  obtain ⟨hplan, course, -⟩ := exists_course hassemble
  have hplans := List.mem_map_of_mem (f := Prod.fst) hmem
  rw [List.zipIdx_map_fst] at hplans
  exact ⟨hplan ▸ hplans, i, session₁, external, ⟨course⟩⟩

end Assembler

end TestDesign
