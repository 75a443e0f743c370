import TestDesign.Proofs.Diagnostics
import TestDesign.Proofs.Preparations

/-!
# TestDesign.Proofs.RepeatedRuns

A run that gives up no plan can be repeated: it yields the same pre-test-cases and leaves the session
as it is (`generate_again`). The first run assembles external steps and reports what is to be said
about them; the second one takes them over, in a session that has it all. A plan goes the same way in
both: it adopts the same values at the same steps (`adopts_of_externalStep`), and nothing that it
reports is new (`Reports.pushAll_of_reported`).
-/

namespace TestDesign

open TestDesign.Random Drafting

/-! ## What has been reported -/

namespace Reports

/-- The message of the note has been reported. -/
def HasReported (r : Reports) : Note → Prop
  | .error d => ∃ x ∈ r.errors, x.message = d.message
  | .warning d => ∃ x ∈ r.warnings, x.message = d.message

variable {r known : Reports} {n : Note} {ns : List Note}

theorem push_of_reported (h : r.HasReported n) : r.push n = r := by
  cases n with
  | error d =>
    obtain ⟨x, hx, hm⟩ := h
    rw [push, pushError, report_of_mem hx hm]
  | warning d =>
    obtain ⟨x, hx, hm⟩ := h
    rw [push, pushWarning, report_of_mem hx hm]

theorem hasReported_push (r : Reports) (n : Note) : (r.push n).HasReported n := by
  cases n with
  | error d => exact exists_mem_report r.errors d
  | warning d => exact exists_mem_report r.warnings d

theorem HasReported.push (h : r.HasReported n) (n' : Note) : (r.push n').HasReported n := by
  cases n with
  | error d =>
    obtain ⟨x, hx, hm⟩ := h
    cases n' with
    | error d' => exact ⟨x, mem_report_of_mem hx, hm⟩
    | warning d' => exact ⟨x, hx, hm⟩
  | warning d =>
    obtain ⟨x, hx, hm⟩ := h
    cases n' with
    | error d' => exact ⟨x, hx, hm⟩
    | warning d' => exact ⟨x, mem_report_of_mem hx, hm⟩

theorem HasReported.pushAll (h : r.HasReported n) (ns : List Note) :
    (r.pushAll ns).HasReported n := by
  induction ns generalizing r with
  | nil => exact h
  | cons n' ns ih => exact ih (h.push n')

theorem hasReported_pushAll (r : Reports) (hn : n ∈ ns) : (r.pushAll ns).HasReported n := by
  induction ns generalizing r with
  | nil => cases hn
  | cons n' ns ih =>
    rcases List.mem_cons.1 hn with rfl | hn
    · exact (hasReported_push r n).pushAll ns
    · exact ih (r.push n') hn

theorem pushAll_of_reported (h : ∀ n ∈ ns, r.HasReported n) : r.pushAll ns = r := by
  induction ns with
  | nil => rfl
  | cons n ns ih =>
    have hn := push_of_reported (h n List.mem_cons_self)
    show (r.push n).pushAll ns = r
    rw [hn]
    exact ih fun n' hn' => h n' (List.mem_cons_of_mem _ hn')

/-- What has been reported in the second place has been reported in the first one. -/
def Knows (known r : Reports) : Prop := ∀ n, r.HasReported n → known.HasReported n

theorem Knows.of_pushAll (h : known.Knows (r.pushAll ns)) : known.Knows r :=
  fun n hn => h n (hn.pushAll ns)

theorem Knows.pushAll_eq (h : known.Knows (r.pushAll ns)) : known.pushAll ns = known :=
  pushAll_of_reported fun n hn => h n (r.hasReported_pushAll hn)

end Reports

/-- What is known after a computation is known before it. -/
theorem ReportsOnly.knows {σ α : Type} {reports : σ → Reports} {m : ExceptT Diagnostic (StateM σ) α}
    {P : Note → Prop} {r : Reports} {s : σ} (h : ReportsOnly reports m P)
    (hr : r.Knows (reports (m s).2)) : r.Knows (reports s) := by
  obtain ⟨⟨ns, hns, -⟩, -⟩ := h s
  rw [hns] at hr
  exact hr.of_pushAll

/-! ## Plans -/

namespace Assembler

variable {a : Assembler} {scope : Scope} {survey : Survey} {plan : Plan} {step : Step}
  {scenario out : List Step} {desk desk' again : Desk} {known : Reports}

/-- Assembled now or before, an external step that succeeds is kept afterwards, and the draft adopts
what is kept. -/
theorem adopts_of_externalStep
    (h : a.externalStep scope survey step desk = (.ok out, desk')) :
    ∃ e, desk'.externals.steps.get? step.content = some e ∧ out = e.steps ∧
      desk'.draft = { (desk.adopt e).draft with reports := desk'.draft.reports } := by
  cases externalOutcome a scope survey h with
  | @again e hkept => exact ⟨e, hkept, rfl, rfl⟩
  | @made out draft =>
    exact ⟨⟨out, draft.values⟩, Keyed.get?_insert_self _ _ _, rfl, rfl⟩

/-- What goes on with the draft alone gives the same again where all that it reports is known. -/
theorem onDraft_again {α : Type} {d : Drafting α} {x : α} (hd : Unread d)
    (h : Desk.onDraft d desk = (.ok x, desk'))
    (hdraft : again.draft = { desk.draft with reports := known })
    (hknown : known.Knows desk'.draft.reports) :
    ∃ again', Desk.onDraft d again = (.ok x, again') ∧
      again'.draft = { desk'.draft with reports := known } ∧
      again'.externals = again.externals := by
  obtain ⟨hgives, -⟩ := Desk.gives_of_onDraft h
  have hrun : d desk.draft = (.ok x, desk'.draft) := hgives
  obtain ⟨ns, hns⟩ := hd desk.draft
  have hfirst := hns desk.draft.reports
  have hagain := hns known
  rw [hrun] at hfirst hagain
  have hreports : desk'.draft.reports = desk.draft.reports.pushAll ns :=
    congrArg Draft.reports (Prod.ext_iff.1 hfirst).2
  rw [hreports] at hknown
  rw [hknown.pushAll_eq] at hagain
  refine ⟨{ again with draft := { desk'.draft with reports := known } }, ?_, rfl, rfl⟩
  simp only [Desk.onDraft, hdraft, hagain]

/-- A step that has succeeded succeeds again where its external steps are kept and its reports are
known. -/
theorem step_again (h : a.step scope survey plan step desk = (.ok out, desk'))
    (hdraft : again.draft = { desk.draft with reports := known })
    (hkept : desk'.externals.KeptIn again.externals) (hknown : known.Knows desk'.draft.reports) :
    ∃ again', a.step scope survey plan step again = (.ok out, again') ∧
      again'.draft = { desk'.draft with reports := known } ∧
      again'.externals = again.externals := by
  unfold Assembler.step at h ⊢
  split at h
  · rename_i hexternal
    obtain ⟨e, he, rfl, hadopted⟩ := adopts_of_externalStep h
    refine ⟨again.adopt e, ?_, ?_, rfl⟩
    · simp only [hexternal, if_true, externalStep, hkept _ _ he]
    · rw [hadopted, Desk.adopt, hdraft]
      rfl
  · rename_i hown
    rw [if_neg hown]
    exact onDraft_again ((a.brief scope survey (some plan)).unread_steps step) h hdraft hknown

theorem steps_again (h : a.steps scope survey plan scenario desk = (.ok out, desk'))
    (hdraft : again.draft = { desk.draft with reports := known })
    (hkept : desk'.externals.KeptIn again.externals) (hknown : known.Knows desk'.draft.reports) :
    ∃ again', a.steps scope survey plan scenario again = (.ok out, again') ∧
      again'.draft = { desk'.draft with reports := known } ∧
      again'.externals = again.externals := by
  induction scenario generalizing desk again out with
  | nil =>
    cases h
    exact ⟨again, rfl, hdraft, rfl⟩
  | cons step scenario ih =>
    unfold Assembler.steps at h ⊢
    obtain ⟨first, desk₁, hfirst, hrest⟩ := run_bind_eq_ok.1 h
    obtain ⟨rest, desk₂, hothers, hpure⟩ := run_bind_eq_ok.1 hrest
    cases hpure
    -- What is kept and known after the other steps is so after the first one.
    have hlater := keptIn_of_steps a scope survey plan scenario desk₁
    have hreports : ReportsOnly Desk.reports (a.steps scope survey plan scenario) fun _ => True :=
      reportsOnly_scenario fun s _ _ _ => (Brief.reportsOnly_steps _ s).mono fun _ _ => trivial
    have hknown₁ := hreports.knows (s := desk₁) (r := known)
    rw [hothers] at hlater hknown₁
    obtain ⟨again₁, hfirst', hdraft₁, hexternals₁⟩ :=
      step_again hfirst hdraft (hlater.trans hkept) (hknown₁ hknown)
    obtain ⟨again₂, hothers', hdraft₂, hexternals₂⟩ := ih hothers hdraft₁ (hexternals₁ ▸ hkept)
    refine ⟨again₂, ?_, hdraft₂, hexternals₂.trans hexternals₁⟩
    exact run_bind_eq_ok.2 ⟨first, again₁, hfirst',
      run_bind_eq_ok.2 ⟨rest, again₂, hothers', rfl⟩⟩

theorem assemble_again {p : PreTestCase} (again : Desk)
    (h : a.assemble scope survey plan scenario desk = (.ok p, desk'))
    (hdraft : again.draft = { desk.draft with reports := known })
    (hkept : desk'.externals.KeptIn again.externals) (hknown : known.Knows desk'.draft.reports) :
    ∃ again', a.assemble scope survey plan scenario again = (.ok p, again') ∧
      again'.draft = { desk'.draft with reports := known } ∧
      again'.externals = again.externals := by
  unfold assemble at h ⊢
  obtain ⟨steps, desk₁, hsteps, hrest⟩ := run_bind_eq_ok.1 h
  obtain ⟨oracles, desk₂, horacles, hpure⟩ := run_bind_eq_ok.1 hrest
  cases hpure
  have hdesk := (Desk.gives_of_onDraft horacles).2
  have hchecked : desk'.externals = desk₁.externals := by rw [hdesk]
  have hreports := Desk.reportsOnly_onDraft (a.brief scope survey (some plan)).reportsOnly_oracles
  have hknown₁ := hreports.knows (s := desk₁) (r := known)
  rw [horacles] at hknown₁
  obtain ⟨again₁, hsteps', hdraft₁, hexternals₁⟩ :=
    steps_again hsteps hdraft (hchecked ▸ hkept) (hknown₁ hknown)
  obtain ⟨again₂, horacles', hdraft₂, hexternals₂⟩ :=
    onDraft_again (a.brief scope survey (some plan)).unread_oracles horacles hdraft₁ hknown
  refine ⟨again₂, ?_, hdraft₂, hexternals₂.trans hexternals₁⟩
  exact run_bind_eq_ok.2 ⟨steps, again₁, hsteps',
    run_bind_eq_ok.2 ⟨oracles, again₂, horacles', rfl⟩⟩

/-! ## Runs -/

variable {plans : List (Plan × Nat)} {session last : Session} {external : Stream}

theorem length_assembleAll_le (a : Assembler) (scope : Scope) (survey : Survey)
    (scenario : List Step) (plans : List (Plan × Nat)) (session : Session) (external : Stream) :
    (a.assembleAll scope survey scenario plans session external).1.length ≤ plans.length := by
  induction plans generalizing session external with
  | nil => exact Nat.le_refl _
  | cons numbered plans ih =>
    cases hassemble : a.assemble scope survey numbered.1 scenario
        (a.freshDesk numbered.2 session external) with
    | mk result desk =>
      cases result with
      | ok p =>
        rw [assembleAll_of_ok hassemble]
        exact Nat.succ_le_succ (ih _ _)
      | error fault =>
        rw [assembleAll_of_error hassemble]
        exact Nat.le_succ_of_le (ih _ _)

/-- What has been reported before some plans has been reported after them. -/
theorem hasReported_assembleAll {n : Note} (h : session.HasReported n) :
    (a.assembleAll scope survey scenario plans session external).2.HasReported n := by
  refine assembleAll_preserves (Q := fun s => s.HasReported n) ?_ h
  intro numbered _ s _ result desk hsofar hassemble
  obtain ⟨ns, hns, -⟩ := exists_afterPlan_eq_pushAll (reportsOnly_mayReport a scope survey numbered.1
    scenario) hassemble
  rw [hns]
  exact hsofar.pushAll ns

/-- Plans of which none is given up can be assembled again on a session that knows all that they
leave behind. -/
theorem assembleAll_again (external' : Stream)
    (hall : (a.assembleAll scope survey scenario plans session external).1.length = plans.length)
    (hkept : (a.assembleAll scope survey scenario plans session external).2.externals.KeptIn
      last.externals)
    (hknown : last.Knows (a.assembleAll scope survey scenario plans session external).2.toReports) :
    a.assembleAll scope survey scenario plans last external' =
      ((a.assembleAll scope survey scenario plans session external).1, last) := by
  induction plans generalizing session external external' with
  | nil => rfl
  | cons numbered plans ih =>
    cases hassemble : a.assemble scope survey numbered.1 scenario
        (a.freshDesk numbered.2 session external) with
    | mk result desk =>
      cases result with
      | error fault =>
        rw [assembleAll_of_error hassemble, List.length_cons] at hall
        have hle := length_assembleAll_le a scope survey scenario plans
          (desk.session.pushError fault) desk.externalStream
        omega
      | ok p =>
        rw [assembleAll_of_ok hassemble] at hall hkept hknown ⊢
        have hlater := keptIn_of_assembleAll a scope survey scenario plans desk.session
          desk.externalStream
        have hplan : last.Knows desk.session.toReports := fun n hn =>
          hknown n (hasReported_assembleAll hn)
        obtain ⟨again, hagain, hdraft, hexternals⟩ := assemble_again
          (a.freshDesk numbered.2 last external') hassemble rfl (hlater.trans hkept) hplan
        have hsame : again.session = last := by
          rw [Desk.session, hdraft, hexternals]
          rfl
        rw [assembleAll_of_ok hagain, hsame,
          ih again.externalStream (Nat.succ.inj hall) hkept hknown]

/-- None of the plans of a run is given up: there is a pre-test-case for each of them. -/
def Completes (a : Assembler) (scope : Scope) (scenario : List Step) (planners : List Planner)
    (session : Session) : Prop :=
  (a.generate scope scenario planners session).1.length =
    (plansOf (Survey.of scope scenario).1 planners).length

/-- After a run that gives up no plan, the same run yields the same pre-test-cases and leaves the
session as it is. -/
theorem generate_again (a : Assembler) (scope : Scope) (scenario : List Step)
    (planners : List Planner) (session : Session)
    (h : a.Completes scope scenario planners session) :
    a.generate scope scenario planners (a.generate scope scenario planners session).2 =
      a.generate scope scenario planners session := by
  have hsurvey : (a.generate scope scenario planners session).2.pushAll
      (Survey.of scope scenario).2 = (a.generate scope scenario planners session).2 := by
    rw [Session.pushAll, Reports.pushAll_of_reported]
    intro n hn
    have hfirst : (session.pushAll (Survey.of scope scenario).2).HasReported n :=
      session.toReports.hasReported_pushAll hn
    exact hasReported_assembleAll hfirst
  have hall : (a.generate scope scenario planners session).1.length =
      (plansOf (Survey.of scope scenario).1 planners).zipIdx.length := by
    rw [List.length_zipIdx]
    exact h
  have hagain := assembleAll_again a.externalSeed.stream hall (Externals.keptIn_refl _)
    fun _ hn => hn
  show a.assembleAll scope (Survey.of scope scenario).1 scenario _
    ((a.generate scope scenario planners session).2.pushAll (Survey.of scope scenario).2) _ = _
  rw [hsurvey]
  exact hagain

/-- A reference to the value of the user, and one to a constant that there is not. -/
def greeting : Step where
  content := "Then I see \x7bUser|value\x7d and [nope]"
  kind := .thenStep
  location := {}
  entities := [⟨.property, "User", "\x7bUser|value\x7d", 11, some "value"⟩,
    ⟨.constant, "nope", "[nope]", 28, none⟩]

/-- The first run signs in and warns of the constant; the second one does neither, and yields the
same. -/
theorem greeting_again :
    let a : Assembler := { seed := ⟨"scenaria"⟩ }
    let run := a.generate accounts [signingIn, greeting] []
    a.Completes accounts [signingIn, greeting] [] {} ∧ run (run {}).2 = run {} ∧
      (run {}).1.map PreTestCase.lines =
        [["Given that I fill <user> with \"Ann\" # \x7bUser\x7d",
          "Then I see \"Ann\" and \"\" # [nope]"]] ∧
      (run {}).2.warnings = [.unresolvedConstant "nope" { file := some "a.feature" }] := by
  intro a run
  have hall : a.Completes accounts [signingIn, greeting] [] {} := by
    unfold Completes
    decide +kernel
  exact ⟨hall, generate_again a accounts _ [] {} hall, by decide +kernel, by decide +kernel⟩

end Assembler

end TestDesign
