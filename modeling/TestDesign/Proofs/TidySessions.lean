import TestDesign.Proofs.Compositional
import TestDesign.Proofs.Diagnostics
import TestDesign.Proofs.KeptSteps
import TestDesign.Proofs.SeparatePlans

/-!
# TestDesign.Proofs.TidySessions

The errors and the warnings of a session, over any number of runs. Whatever is noted in a run is
noted as what it is, and a plan is given up for fatal reasons only (`Assembler.isGraded_assemble`);
what is reported is reported behind everything else, once (`Reports.IsTidy.push`,
`Reports.extends_push`).
`runs_report_once` puts this together for all runs on a session that starts empty, and compares it
with dropping what was reported more than once afterwards.
-/

namespace TestDesign

open TestDesign.Random Drafting

/-! ## Grades -/

theorem reportsOnly_isGraded :
    Compositional fun {α} (m : Drafting α) => ReportsOnly Draft.reports m Note.IsGraded where
  pure := reportsOnly_pure
  throw _ h := reportsOnly_throw h
  bind := reportsOnly_seq
  get _ hf := reportsOnly_seq reportsOnly_get hf
  draw := reportsOnly_draw
  note _ h := reportsOnly_note h
  remember := reportsOnly_remember

theorem Assembler.isGraded_assemble (a : Assembler) (scope : Scope) (survey : Survey) (plan : Plan)
    (scenario : List Step) :
    ReportsOnly Desk.reports (a.assemble scope survey plan scenario) Note.IsGraded := by
  refine reportsOnly_assemble ?_ (reportsOnly_isGraded.oracles _)
  intro step _ p _
  exact reportsOnly_isGraded.steps _ step reportsOnly_markFilled

theorem Survey.isGraded_of_mem {scope : Scope} {scenario : List Step} {n : Note}
    (h : n ∈ (Survey.of scope scenario).2) : n.IsGraded := by
  obtain ⟨_, -, rfl⟩ := List.mem_map.1 h
  rfl

/-! ## Reports -/

namespace Reports

/-- No message is reported twice, errors are fatal and warnings are not. -/
structure IsTidy (r : Reports) : Prop where
  errors : (r.errors.map Diagnostic.message).Nodup
  warnings : (r.warnings.map Diagnostic.message).Nodup
  fatal : ∀ d ∈ r.errors, d.isRecoverable = false
  recoverable : ∀ d ∈ r.warnings, d.isRecoverable = true

/-- The second reports have the errors and warnings of the first ones, and maybe others after
them. -/
structure Extends (r t : Reports) : Prop where
  errors : r.errors <+: t.errors
  warnings : r.warnings <+: t.warnings

variable {r t u : Reports} {n : Note} {ns : List Note}

theorem isTidy_empty : IsTidy {} :=
  ⟨List.nodup_nil, List.nodup_nil, List.forall_mem_nil _, List.forall_mem_nil _⟩

theorem IsTidy.push (h : r.IsTidy) (hn : n.IsGraded) : (r.push n).IsTidy := by
  cases n with
  | error d =>
    refine ⟨nodup_report h.errors d, h.warnings, ?_, h.recoverable⟩
    intro x hx
    rcases mem_or_mem_of_mem_report hx with hx | rfl
    · exact h.fatal x hx
    · exact hn
  | warning d =>
    refine ⟨h.errors, nodup_report h.warnings d, h.fatal, ?_⟩
    intro x hx
    rcases mem_or_mem_of_mem_report hx with hx | rfl
    · exact h.recoverable x hx
    · exact hn

theorem IsTidy.pushAll (h : r.IsTidy) (hns : ∀ n ∈ ns, n.IsGraded) : (r.pushAll ns).IsTidy := by
  induction ns generalizing r with
  | nil => exact h
  | cons n ns ih =>
    exact ih (h.push (hns n List.mem_cons_self)) fun n' hn' => hns n' (List.mem_cons_of_mem _ hn')

theorem extends_refl (r : Reports) : r.Extends r := ⟨List.prefix_refl _, List.prefix_refl _⟩

theorem Extends.trans (h : r.Extends t) (h' : t.Extends u) : r.Extends u :=
  ⟨h.errors.trans h'.errors, h.warnings.trans h'.warnings⟩

theorem extends_push (r : Reports) (n : Note) : r.Extends (r.push n) := by
  cases n with
  | error d => exact ⟨prefix_report r.errors d, List.prefix_refl _⟩
  | warning d => exact ⟨List.prefix_refl _, prefix_report r.warnings d⟩

theorem extends_pushAll (r : Reports) (ns : List Note) : r.Extends (r.pushAll ns) := by
  induction ns generalizing r with
  | nil => exact extends_refl r
  | cons n ns ih => exact (extends_push r n).trans (ih (r.push n))

end Reports

/-! ## Runs -/

namespace Assembler

variable {a : Assembler} {scope : Scope} {survey : Survey} {scenario : List Step}
  {plans : List (Plan × Nat)} {planners : List Planner} {session : Session} {external : Stream}

theorem isTidy_assembleAll (h : session.IsTidy) :
    (a.assembleAll scope survey scenario plans session external).2.IsTidy := by
  refine assembleAll_preserves (Q := (·.IsTidy)) ?_ h
  intro numbered _ s _ result desk hs hassemble
  obtain ⟨ns, hns, hgraded⟩ := exists_afterPlan_eq_pushAll (isGraded_assemble a scope survey
    numbered.1 scenario) hassemble
  rw [hns]
  exact hs.pushAll hgraded

theorem extends_assembleAll :
    session.Extends (a.assembleAll scope survey scenario plans session external).2.toReports := by
  refine assembleAll_preserves (Q := fun s => session.Extends s.toReports) ?_
    session.toReports.extends_refl
  intro numbered _ s _ result desk hs hassemble
  obtain ⟨ns, hns, -⟩ := exists_afterPlan_eq_pushAll (isGraded_assemble a scope survey numbered.1
    scenario) hassemble
  rw [hns]
  exact hs.trans (s.toReports.extends_pushAll ns)

theorem isTidy_generate (h : session.IsTidy) :
    (a.generate scope scenario planners session).2.IsTidy := by
  unfold generate
  exact isTidy_assembleAll (h.pushAll fun _ hn => Survey.isGraded_of_mem hn)

theorem extends_generate :
    session.Extends (a.generate scope scenario planners session).2.toReports := by
  let surveyed := session.pushAll (Survey.of scope scenario).2
  have hplans : surveyed.Extends (a.generate scope scenario planners session).2.toReports :=
    extends_assembleAll
  exact (session.toReports.extends_pushAll _).trans hplans

end Assembler

theorem Session.isTidy_after {scope : Scope} {s : Session} (calls : List Call) (h : s.IsTidy) :
    (s.after scope calls).IsTidy := by
  induction calls generalizing s with
  | nil => exact h
  | cons c calls ih => exact ih (Assembler.isTidy_generate h)

/-- Over any calls on a session that starts empty, every message is reported once, as an error when
it is fatal and as a warning when it is not; and a call leaves what has been reported in its place.
In lists that were filled otherwise, dropping what was reported more than once leaves what reporting
them one by one in an empty session leaves, and doing so again changes nothing. -/
theorem runs_report_once :
    (∀ (scope : Scope) (calls : List Call), (({} : Session).after scope calls).IsTidy) ∧
    (∀ (scope : Scope) (call : Call) (s : Session), s.Extends (call.run scope s).2.toReports) ∧
    ∀ s : Session,
      s.dedup.errors = (s.errors.foldl Session.pushError {}).errors ∧
      s.dedup.warnings = (s.warnings.foldl Session.pushWarning {}).warnings ∧
      s.dedup.dedup = s.dedup := by
  refine ⟨?_, ?_, ?_⟩
  · intro scope calls
    exact Session.isTidy_after calls Reports.isTidy_empty
  · intro scope call s
    exact Assembler.extends_generate
  · intro s
    refine ⟨?_, ?_, ?_⟩
    · rw [Session.foldl_pushError]
      exact firstOfEach_eq_foldl_report s.errors
    · rw [Session.foldl_pushWarning]
      exact firstOfEach_eq_foldl_report s.warnings
    · simp only [Session.dedup, firstOfEach_firstOfEach]

end TestDesign
