import TestDesign.Proofs.Draws
import TestDesign.Proofs.Reports
import TestDesign.Proofs.SpliceLoop

/-!
# TestDesign.Proofs.Diagnostics

Everything that can be reported about a step, in one list (`Brief.MayReport`), each entry with what
must be the case for it. `reportsOnly_steps` and `reportsOnly_oracles`: assembling a step or the
checks of a plan notes nothing else and fails for no other reason. `mayReport_of_mem_errors`: the
errors of a whole run are those that were there, the faults of the survey, and what may be reported
about a step or a check of one of its plans.

Later results about errors are by cases on the list and do not look into the assembly again.
-/

namespace TestDesign

open TestDesign.Random Drafting

/-- Some state of the stream leads to the answer. -/
def Random.Draw.MayGive {α : Type} (d : Draw α) (x : α) : Prop := ∃ s : Stream, (d.run s).1 = x

theorem Random.Draw.Always.of_mayGive {α : Type} {d : Draw α} {P : α → Prop} {x : α}
    (h : d.Always P) (hx : d.MayGive x) : P x := by
  obtain ⟨s, rfl⟩ := hx
  exact h s

def Note.diagnostic : Note → Diagnostic
  | .error d | .warning d => d

/-! ## Computations that report only certain diagnostics -/

/-- From every state, what the computation reports satisfies `P`, and so does its reason to fail, as
an error. -/
def ReportsOnly {σ α : Type} (reports : σ → Reports) (m : ExceptT Diagnostic (StateM σ) α)
    (P : Note → Prop) : Prop :=
  ∀ s, (∃ ns, reports (m s).2 = (reports s).pushAll ns ∧ ∀ n ∈ ns, P n) ∧
    ∀ e, (m s).1 = .error e → P (.error e)

section ReportsOnly

variable {σ α β : Type} {reports : σ → Reports} {m : ExceptT Diagnostic (StateM σ) α}
  {f : α → ExceptT Diagnostic (StateM σ) β} {P : Note → Prop}

theorem reportsOnly_of_reports_eq (h : ∀ s, reports (m s).2 = reports s)
    (hok : ∀ s, ∃ x, (m s).1 = .ok x) : ReportsOnly reports m P := by
  intro s
  refine ⟨⟨[], h s, List.forall_mem_nil _⟩, ?_⟩
  intro e he
  obtain ⟨x, hx⟩ := hok s
  rw [hx] at he
  cases he

theorem reportsOnly_pure (x : α) : ReportsOnly reports (pure x) P :=
  reportsOnly_of_reports_eq (fun _ => rfl) fun _ => ⟨x, rfl⟩

theorem reportsOnly_throw {e : Diagnostic} (h : P (.error e)) :
    ReportsOnly reports (throw e : ExceptT Diagnostic (StateM σ) α) P := by
  intro s
  refine ⟨⟨[], rfl, List.forall_mem_nil _⟩, ?_⟩
  intro e' he
  cases he
  exact h

theorem reportsOnly_bind (hm : ReportsOnly reports m P)
    (hf : ∀ x, (∃ s s', m s = (.ok x, s')) → ReportsOnly reports (f x) P) :
    ReportsOnly reports (m >>= f) P := by
  intro s
  obtain ⟨⟨ns, hns, hP⟩, hfail⟩ := hm s
  rw [run_bind]
  cases hms : m s with
  | mk result s₁ =>
    rw [hms] at hns hfail
    cases result with
    | error e =>
      refine ⟨⟨ns, hns, hP⟩, ?_⟩
      intro e' he
      cases he
      exact hfail e rfl
    | ok x =>
      obtain ⟨⟨ns', hns', hP'⟩, hfail'⟩ := hf x ⟨s, s₁, hms⟩ s₁
      refine ⟨⟨ns ++ ns', ?_, ?_⟩, hfail'⟩
      · rw [Reports.pushAll_append, ← hns]
        exact hns'
      · intro n hn
        rcases List.mem_append.1 hn with hn | hn
        · exact hP n hn
        · exact hP' n hn

theorem reportsOnly_seq (hm : ReportsOnly reports m P) (hf : ∀ x, ReportsOnly reports (f x) P) :
    ReportsOnly reports (m >>= f) P := reportsOnly_bind hm fun x _ => hf x

theorem ReportsOnly.mono {Q : Note → Prop} (h : ReportsOnly reports m P) (hPQ : ∀ n, P n → Q n) :
    ReportsOnly reports m Q := by
  intro s
  obtain ⟨⟨ns, hns, hP⟩, hfail⟩ := h s
  exact ⟨⟨ns, hns, fun n hn => hPQ _ (hP n hn)⟩, fun e he => hPQ _ (hfail e he)⟩

end ReportsOnly

section Drafting

variable {α : Type} {P : Note → Prop}

theorem reportsOnly_draw (d : Draw α) : ReportsOnly Draft.reports (draw d) P :=
  reportsOnly_of_reports_eq (fun _ => rfl) fun s => ⟨(d.run s.stream).1, rfl⟩

theorem reportsOnly_get : ReportsOnly Draft.reports (get : Drafting Draft) P :=
  reportsOnly_of_reports_eq (fun _ => rfl) fun s => ⟨s, rfl⟩

theorem reportsOnly_remember (var : String) (v : Value) :
    ReportsOnly Draft.reports (remember var v) P :=
  reportsOnly_of_reports_eq (fun _ => rfl) fun _ => ⟨(), rfl⟩

theorem reportsOnly_markFilled (e : FilledElement) :
    ReportsOnly Draft.reports (markFilled e) P := by
  refine reportsOnly_of_reports_eq (fun s => ?_) fun _ => ⟨(), rfl⟩
  show (if s.filled.any (·.var = e.var) then s
    else { s with filled := s.filled ++ [e] }).reports = _
  split <;> rfl

theorem reportsOnly_note {n : Note} (h : P n) : ReportsOnly Draft.reports (note n) P := by
  intro s
  refine ⟨⟨[n], rfl, ?_⟩, ?_⟩
  · intro n' hn
    cases List.mem_singleton.1 hn
    exact h
  · intro e he
    cases he

theorem reportsOnly_warn {d : Diagnostic} (h : P (.warning d)) :
    ReportsOnly Draft.reports (warn d) P := reportsOnly_note h

end Drafting

/-! ## What may be reported about a step -/

namespace Brief

/-- A diagnostic about a step, with the reason for it. -/
inductive MayReport (b : Brief) (step : Step) : Diagnostic → Prop
  | misplaced {e : Entity} (h : step.checkEntities = .error e) :
    MayReport b step (.malformedReference e.text (b.scope.locate step))
  | unresolvedElement (var : String) :
    MayReport b step (.unresolvedElement var (b.scope.locate step))
  | unresolvedConstant (name : String) :
    MayReport b step (.unresolvedConstant name (b.scope.locate step))
  | unsupportedProperty (reference : String) :
    MayReport b step (.unsupportedProperty reference (b.scope.locate step))
  | configuration {x : Element} {fault : DataError} (h : b.constraintsOf x = .error fault) :
    MayReport b step (.configuration x.variableName fault x.location)
  /-- The planned case of a filled element has no value. -/
  | planned {var : String} {c : Constraints} {p : PlannedCase} {fault : DataError}
    (hc : b.survey.constraints.get? var = some c) (hp : b.plan.bind (·.case? var) = some p)
    (h : (b.generator.generate p.case c).MayGive (.error fault)) :
    MayReport b step (.contract var fault (b.scope.locate step))
  /-- A valid case of a filled element, for which nothing is planned, has no value. -/
  | unplanned {var : String} {c : Constraints} {case : DataCase} {fault : DataError}
    (hc : b.survey.constraints.get? var = some c) (hcase : c.validCase.MayGive case)
    (h : (b.generator.generate case c).MayGive (.error fault)) :
    MayReport b step (.contract var fault (b.scope.locate step))
  /-- An element that is referred to cannot be filled. -/
  | referred {x : Element} {c : Constraints} {fault : DataError} (hc : b.constraintsOf x = .ok c)
    (h : (b.generator.generate .filled c).MayGive (.error fault)) :
    MayReport b step (.contract x.variableName fault (b.scope.locate step))

variable {b : Brief} {step : Step} {P : Note → Prop}

theorem mayGive_of_draw {α : Type} {d : Draw α} {x : α}
    (h : ∃ s s', draw d s = (.ok x, s')) : d.MayGive x := by
  obtain ⟨s, s', h⟩ := h
  cases h
  exact ⟨s.stream, rfl⟩

/-! ### Filling -/

theorem reportsOnly_fillFreely (literal : String) (reference : Option String) :
    ReportsOnly Draft.reports (b.fillFreely literal reference) P := by
  unfold fillFreely
  exact reportsOnly_seq (reportsOnly_draw _) fun _ => reportsOnly_pure _

theorem reportsOnly_valueFor {var : String} {case : DataCase} {c : Constraints}
    (h : ∀ fault, (b.generator.generate case c).MayGive (.error fault) →
      P (.error (.contract var fault (b.scope.locate step)))) :
    ReportsOnly Draft.reports (b.valueFor step var case c) P := by
  unfold valueFor
  refine reportsOnly_bind (reportsOnly_draw _) ?_
  intro x hx
  cases x with
  | ok v => exact reportsOnly_pure v
  | error fault => exact reportsOnly_throw (h fault (mayGive_of_draw hx))

theorem reportsOnly_fillElement (target : Entity) (x : Element) :
    ReportsOnly Draft.reports (b.fillElement step target x) (b.MayReport step ·.diagnostic) := by
  -- Whatever comes of the filling is remembered, which reports nothing.
  have hremember (f : Filling) :
      ReportsOnly Draft.reports (do remember x.variableName f.value; pure f)
        (b.MayReport step ·.diagnostic) :=
    reportsOnly_seq (reportsOnly_remember _ _) fun _ => reportsOnly_pure f
  simp only [fillElement]
  split
  · rename_i c planned hc hp
    refine reportsOnly_seq (reportsOnly_valueFor fun fault h => .planned hc hp h) fun v => ?_
    refine reportsOnly_seq (reportsOnly_markFilled _) fun _ => ?_
    exact hremember _
  · rename_i c hc _
    refine reportsOnly_bind (reportsOnly_draw _) ?_
    intro case hcase
    refine reportsOnly_seq (reportsOnly_valueFor fun fault h => ?_) fun v => hremember _
    exact .unplanned hc (mayGive_of_draw hcase) h
  · exact reportsOnly_seq (reportsOnly_fillFreely _ _) hremember

theorem reportsOnly_fillTarget (target : Entity) :
    ReportsOnly Draft.reports (b.fillTarget step target) (b.MayReport step ·.diagnostic) := by
  unfold fillTarget
  split
  · split
    · exact reportsOnly_fillElement target _
    · exact reportsOnly_seq (reportsOnly_warn (.unresolvedElement _)) fun _ =>
        reportsOnly_fillFreely _ _
  · exact reportsOnly_fillFreely _ _

theorem reportsOnly_expandFill (action : Entity) (i : Nat) (targets : List Entity) :
    ReportsOnly Draft.reports (b.expandFill step action i targets)
      (b.MayReport step ·.diagnostic) := by
  induction targets generalizing i with
  | nil => exact reportsOnly_pure _
  | cons target targets ih =>
    unfold expandFill
    refine reportsOnly_seq (reportsOnly_fillTarget target) fun f => ?_
    exact reportsOnly_seq (ih (i + 1)) fun _ => reportsOnly_pure _

/-! ### Replacing -/

theorem reportsOnly_replaceValue (x : Element) :
    ReportsOnly Draft.reports (b.replaceValue step x) (b.MayReport step ·.diagnostic) := by
  unfold replaceValue
  refine reportsOnly_seq reportsOnly_get fun s => ?_
  split
  · exact reportsOnly_pure _
  · split
    · rename_i fault hfault
      exact reportsOnly_seq (reportsOnly_note (.configuration hfault)) fun _ => reportsOnly_pure _
    · rename_i c hc
      refine reportsOnly_seq (reportsOnly_valueFor fun fault h => .referred hc h) fun v => ?_
      exact reportsOnly_seq (reportsOnly_remember _ _) fun _ => reportsOnly_pure _

theorem reportsOnly_replace (e : Entity) :
    ReportsOnly Draft.reports (b.replace step e) (b.MayReport step ·.diagnostic) := by
  unfold replace
  split
  · unfold replaceConstant
    split
    · exact reportsOnly_pure _
    · exact reportsOnly_seq (reportsOnly_warn (.unresolvedConstant _)) fun _ => reportsOnly_pure _
  · unfold replaceElement
    split
    · exact reportsOnly_pure _
    · exact reportsOnly_seq (reportsOnly_warn (.unresolvedElement _)) fun _ => reportsOnly_pure _
  · unfold replaceProperty
    split
    · split
      · exact reportsOnly_replaceValue _
      · exact reportsOnly_seq (reportsOnly_warn (.unresolvedElement _)) fun _ =>
          reportsOnly_pure _
    · exact reportsOnly_seq (reportsOnly_warn (.unsupportedProperty _)) fun _ =>
        reportsOnly_pure _
  all_goals exact reportsOnly_pure _

theorem reportsOnly_rewriteEntities (w : Rewriting) (es : List Entity) :
    ReportsOnly Draft.reports (b.rewriteEntities step w es) (b.MayReport step ·.diagnostic) := by
  induction es generalizing w with
  | nil => exact reportsOnly_pure _
  | cons e es ih =>
    unfold rewriteEntities
    rw [rewriteEntity_eq]
    exact reportsOnly_seq (reportsOnly_seq (reportsOnly_replace e) fun _ => reportsOnly_pure _) ih

theorem reportsOnly_rememberAll (v : Value) (vars : List String) :
    ReportsOnly Draft.reports (rememberAll v vars) P := by
  induction vars with
  | nil => exact reportsOnly_pure _
  | cons var vars ih =>
    unfold rememberAll
    exact reportsOnly_seq (reportsOnly_remember _ _) fun _ => ih

theorem reportsOnly_resolve :
    ReportsOnly Draft.reports (b.resolve step) (b.MayReport step ·.diagnostic) := by
  unfold resolve
  refine reportsOnly_seq (reportsOnly_rewriteEntities _ _) fun w => ?_
  simp only
  split
  · split
    · exact reportsOnly_seq (reportsOnly_rememberAll _ _) fun _ => reportsOnly_pure _
    · exact reportsOnly_pure _
  · exact reportsOnly_pure _

/-! ### Steps and checks -/

theorem reportsOnly_checkStep (b : Brief) (step : Step) :
    ReportsOnly Draft.reports (b.checkStep step) (b.MayReport step ·.diagnostic) := by
  unfold checkStep
  split
  · exact reportsOnly_pure _
  · rename_i e he
    exact reportsOnly_throw (.misplaced he)

theorem reportsOnly_steps (b : Brief) (step : Step) :
    ReportsOnly Draft.reports (b.steps step) (b.MayReport step ·.diagnostic) := by
  unfold steps
  refine reportsOnly_seq (b.reportsOnly_checkStep step) fun _ => ?_
  split
  · exact reportsOnly_expandFill _ _ _
  · exact reportsOnly_seq reportsOnly_resolve fun _ => reportsOnly_pure _

/-- The diagnostics about the checks of a plan. -/
def MayReportInCheck (b : Brief) (d : Diagnostic) : Prop :=
  ∃ var, ∃ otherwise ∈ b.violationSteps var, b.MayReport otherwise d

theorem reportsOnly_oraclesOf (literal : String) {var : String} {otherwise : List Step}
    (h : ∀ o ∈ otherwise, o ∈ b.violationSteps var) :
    ReportsOnly Draft.reports (b.oraclesOf literal otherwise)
      (b.MayReportInCheck ·.diagnostic) := by
  induction otherwise with
  | nil => exact reportsOnly_pure _
  | cons o os ih =>
    have ho (n : Note) (hn : b.MayReport o n.diagnostic) : b.MayReportInCheck n.diagnostic :=
      ⟨var, o, h o List.mem_cons_self, hn⟩
    have hos := ih fun o' ho' => h o' (List.mem_cons_of_mem _ ho')
    have horacle :
        ReportsOnly Draft.reports (b.oracle literal o) (b.MayReportInCheck ·.diagnostic) := by
      unfold oracle
      refine reportsOnly_seq ((b.reportsOnly_checkStep o).mono ho) fun _ => ?_
      exact reportsOnly_seq (reportsOnly_resolve.mono ho) fun _ => reportsOnly_pure _
    unfold oraclesOf
    exact reportsOnly_seq horacle fun _ => reportsOnly_seq hos fun _ => reportsOnly_pure _

theorem reportsOnly_oraclesFor (filled : List FilledElement) :
    ReportsOnly Draft.reports (b.oraclesFor filled) (b.MayReportInCheck ·.diagnostic) := by
  induction filled with
  | nil => exact reportsOnly_pure _
  | cons e es ih =>
    unfold oraclesFor
    have hown : ∀ o ∈ b.violationSteps e.var, o ∈ b.violationSteps e.var := fun _ ho => ho
    refine reportsOnly_seq (reportsOnly_oraclesOf _ hown) fun _ => ?_
    exact reportsOnly_seq ih fun _ => reportsOnly_pure _

theorem reportsOnly_oracles (b : Brief) :
    ReportsOnly Draft.reports b.oracles (b.MayReportInCheck ·.diagnostic) := by
  unfold oracles
  exact reportsOnly_seq reportsOnly_get fun s => reportsOnly_oraclesFor s.filled

end Brief

/-! ## What may be reported about a run -/

def Desk.reports (d : Desk) : Reports := d.draft.reports

theorem Desk.reportsOnly_onDraft {α : Type} {d : Drafting α} {P : Note → Prop}
    (h : ReportsOnly Draft.reports d P) : ReportsOnly Desk.reports (onDraft d) P :=
  fun desk => h desk.draft

namespace Assembler

variable {a : Assembler} {scope : Scope} {survey : Survey} {plan : Plan} {scenario : List Step}

/-- A diagnostic about a step of the scenario or about a check of the plan. External steps are
assembled without the plan. -/
inductive MayReport (a : Assembler) (scope : Scope) (survey : Survey) (plan : Plan)
    (scenario : List Step) : Diagnostic → Prop
  | step {step : Step} {p : Option Plan} {d : Diagnostic} (hstep : step ∈ scenario)
    (hp : p = some plan ∨ p = none) (h : (a.brief scope survey p).MayReport step d) :
    MayReport a scope survey plan scenario d
  | check {d : Diagnostic} (h : (a.brief scope survey (some plan)).MayReportInCheck d) :
    MayReport a scope survey plan scenario d

section Plan

variable {P : Note → Prop}

/-- An external step goes on with the reports of the plan. -/
theorem reportsOnly_externalStep {step : Step}
    (h : ReportsOnly Draft.reports ((a.brief scope survey none).steps step) P) :
    ReportsOnly Desk.reports (a.externalStep scope survey step) P := by
  intro desk
  obtain ⟨⟨ns, hns, hP⟩, hfail⟩ := h desk.externalDraft
  cases hdesk : a.externalStep scope survey step desk with
  | mk result desk' =>
    cases externalOutcome a scope survey hdesk with
    | again =>
      refine ⟨⟨[], rfl, List.forall_mem_nil _⟩, ?_⟩
      intro e he
      cases he
    | failed _ hrun =>
      rw [hrun] at hns hfail
      refine ⟨⟨ns, hns, hP⟩, ?_⟩
      intro e he
      cases he
      exact hfail _ rfl
    | made _ hrun =>
      rw [hrun] at hns
      refine ⟨⟨ns, hns, hP⟩, ?_⟩
      intro e he
      cases he

theorem reportsOnly_scenario
    (h : ∀ step ∈ scenario, ∀ p, p = some plan ∨ p = none →
      ReportsOnly Draft.reports ((a.brief scope survey p).steps step) P) :
    ReportsOnly Desk.reports (a.steps scope survey plan scenario) P := by
  induction scenario with
  | nil => exact reportsOnly_pure _
  | cons step scenario ih =>
    have hstep : ReportsOnly Desk.reports (a.step scope survey plan step) P := by
      unfold Assembler.step
      split
      · exact reportsOnly_externalStep (h step List.mem_cons_self none (.inr rfl))
      · exact Desk.reportsOnly_onDraft (h step List.mem_cons_self (some plan) (.inl rfl))
    have hothers := ih fun s hs => h s (List.mem_cons_of_mem _ hs)
    unfold Assembler.steps
    exact reportsOnly_seq hstep fun _ => reportsOnly_seq hothers fun _ => reportsOnly_pure _

theorem reportsOnly_assemble
    (hsteps : ∀ step ∈ scenario, ∀ p, p = some plan ∨ p = none →
      ReportsOnly Draft.reports ((a.brief scope survey p).steps step) P)
    (hchecks : ReportsOnly Draft.reports (a.brief scope survey (some plan)).oracles P) :
    ReportsOnly Desk.reports (a.assemble scope survey plan scenario) P := by
  unfold assemble
  refine reportsOnly_seq (reportsOnly_scenario hsteps) fun _ => ?_
  exact reportsOnly_seq (Desk.reportsOnly_onDraft hchecks) fun _ => reportsOnly_pure _

/-- A plan leaves its notes behind what it has found, and then the reason why it was given up. -/
theorem exists_afterPlan_eq_pushAll {i : Nat} {session : Session} {external : Stream}
    {result : Except Diagnostic PreTestCase} {desk : Desk}
    (hP : ReportsOnly Desk.reports (a.assemble scope survey plan scenario) P)
    (h : a.assemble scope survey plan scenario (a.freshDesk i session external) = (result, desk)) :
    ∃ ns, (desk.afterPlan result).toReports = session.toReports.pushAll ns ∧ ∀ n ∈ ns, P n := by
  obtain ⟨⟨ns, hns, hnotes⟩, hfail⟩ := hP (a.freshDesk i session external)
  rw [h] at hns hfail
  have hplan : desk.draft.reports = session.toReports.pushAll ns := hns
  cases result with
  | ok p => exact ⟨ns, hplan, hnotes⟩
  | error fault =>
    refine ⟨ns ++ [.error fault], ?_, ?_⟩
    · rw [Reports.pushAll_append, ← hplan]
      rfl
    · intro n hn
      rcases List.mem_append.1 hn with hn | hn
      · exact hnotes n hn
      · cases List.mem_singleton.1 hn
        exact hfail fault rfl

end Plan

theorem reportsOnly_mayReport (a : Assembler) (scope : Scope) (survey : Survey) (plan : Plan)
    (scenario : List Step) :
    ReportsOnly Desk.reports (a.assemble scope survey plan scenario)
      (a.MayReport scope survey plan scenario ·.diagnostic) := by
  refine reportsOnly_assemble ?_ ((Brief.reportsOnly_oracles _).mono fun n hn => .check hn)
  intro step hstep p hp
  exact (Brief.reportsOnly_steps _ step).mono fun n hn => .step hstep hp hn

end Assembler

theorem mem_or_mem_of_mem_report {xs : List Diagnostic} {d x : Diagnostic}
    (h : x ∈ report xs d) : x ∈ xs ∨ x = d := by
  unfold report at h
  split at h
  · exact .inl h
  · simpa using h

theorem Reports.mem_errors_pushAll {r : Reports} {ns : List Note} {d : Diagnostic}
    (h : d ∈ (r.pushAll ns).errors) : d ∈ r.errors ∨ ∃ n ∈ ns, n.diagnostic = d := by
  induction ns generalizing r with
  | nil => exact .inl h
  | cons n ns ih =>
    rcases ih (r := r.push n) h with hpushed | ⟨n', hn', hd⟩
    · cases n with
      | error e =>
        rcases mem_or_mem_of_mem_report hpushed with hold | rfl
        · exact .inl hold
        · exact .inr ⟨_, List.mem_cons_self, rfl⟩
      | warning e => exact .inl hpushed
    · exact .inr ⟨n', List.mem_cons_of_mem _ hn', hd⟩

namespace Assembler

variable {a : Assembler} {scope : Scope} {survey : Survey} {scenario : List Step}

theorem mayReport_of_mem_errors_assembleAll {plans : List (Plan × Nat)} {session : Session}
    {external : Stream} {d : Diagnostic}
    (h : d ∈ (a.assembleAll scope survey scenario plans session external).2.errors) :
    d ∈ session.errors ∨ ∃ p ∈ plans, a.MayReport scope survey p.1 scenario d := by
  let Q (s : Session) : Prop :=
    ∀ d ∈ s.errors, d ∈ session.errors ∨ ∃ p ∈ plans, a.MayReport scope survey p.1 scenario d
  refine assembleAll_preserves (Q := Q) ?_ (fun _ hd => .inl hd) d h
  intro numbered hmem s _ result desk hsofar hassemble d hd
  obtain ⟨ns, hns, hP⟩ := exists_afterPlan_eq_pushAll (reportsOnly_mayReport a scope survey
    numbered.1 scenario) hassemble
  rw [hns] at hd
  rcases Reports.mem_errors_pushAll hd with hold | ⟨n, hn, rfl⟩
  · exact hsofar d hold
  · exact .inr ⟨numbered, hmem, hP n hn⟩

/-- An error of a run was there before, or it is a fault of an element that the survey has found,
or it may be reported about a step or a check of one of the plans. -/
theorem mayReport_of_mem_errors {planners : List Planner} {session : Session} {d : Diagnostic}
    (h : d ∈ (a.generate scope scenario planners session).2.errors) :
    d ∈ session.errors ∨ (∃ var fault l, d = .configuration var fault l) ∨
      ∃ plan ∈ plansOf (Survey.of scope scenario).1 planners,
        a.MayReport scope (Survey.of scope scenario).1 plan scenario d := by
  unfold generate at h
  rcases mayReport_of_mem_errors_assembleAll h with hd | ⟨⟨plan, i⟩, hp, hd⟩
  · rcases Reports.mem_errors_pushAll hd with hold | ⟨n, hn, rfl⟩
    · exact .inl hold
    · obtain ⟨fault, -, rfl⟩ := List.mem_map.1 hn
      exact .inr (.inl ⟨_, _, _, rfl⟩)
  · have hplan := List.mem_map_of_mem (f := Prod.fst) hp
    rw [List.zipIdx_map_fst] at hplan
    exact .inr (.inr ⟨plan, hplan, hd⟩)

end Assembler

end TestDesign
