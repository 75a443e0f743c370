import TestDesign.Proofs.Courses
import TestDesign.Proofs.Preparations

/-!
# TestDesign.Proofs.KeptSteps

What a session keeps over many runs, whoever generates in them and whatever is generated.
`kept_steps_never_change`: an external step that is kept stays as it is, one that fails changes
nothing that is kept, and all pre-test-cases of all runs have the same steps for it, namely those
that are kept after the last run.
-/

namespace TestDesign

open TestDesign.Random

/-- A run on a session. -/
structure Call where
  assembler : Assembler
  scenario : List Step
  planners : List Planner

def Call.run (c : Call) (scope : Scope) (s : Session) : List PreTestCase × Session :=
  c.assembler.generate scope c.scenario c.planners s

/-- The session after calls, one after the other. -/
def Session.after (s : Session) (scope : Scope) (calls : List Call) : Session :=
  calls.foldl (fun s c => (c.run scope s).2) s

theorem Session.after_append (s : Session) (scope : Scope) (before after : List Call) :
    s.after scope (before ++ after) = (s.after scope before).after scope after :=
  List.foldl_append

theorem Session.keptIn_after (s : Session) (scope : Scope) (calls : List Call) :
    s.externals.KeptIn (s.after scope calls).externals := by
  induction calls generalizing s with
  | nil => exact Externals.keptIn_refl _
  | cons c calls ih =>
    have hcall : s.externals.KeptIn (c.run scope s).2.externals :=
      Assembler.keptIn_of_generate c.assembler scope c.scenario c.planners s
    exact hcall.trans (ih (c.run scope s).2)

/-- The steps that are kept for an external step. -/
def Externals.kept? (x : Externals) (content : String) : Option (List Step) :=
  (x.steps.get? content).map (·.steps)

theorem Externals.KeptIn.kept? {x y : Externals} {content : String} {out : List Step}
    (h : x.KeptIn y) (hx : x.kept? content = some out) : y.kept? content = some out := by
  obtain ⟨e, he, rfl⟩ := Option.map_eq_some_iff.1 hx
  exact Option.map_eq_some_iff.2 ⟨e, h content e he, rfl⟩

namespace Assembler

variable {a : Assembler} {scope : Scope} {survey : Survey} {plan : Plan} {step : Step}
  {desk desk' : Desk} {out : List Step}

theorem externals_of_failed {fault : Diagnostic} (hexternal : step.isExternal = true)
    (h : a.step scope survey plan step desk = (.error fault, desk')) :
    desk'.externals = desk.externals := by
  unfold Assembler.step at h
  rw [if_pos hexternal] at h
  cases externalOutcome a scope survey h with
  | failed => rfl

/-- What an external step becomes is kept for it. -/
theorem kept_of_externalStep (h : a.externalStep scope survey step desk = (.ok out, desk')) :
    desk'.externals.kept? step.content = some out := by
  unfold Externals.kept?
  cases externalOutcome a scope survey h with
  | again hkept => exact Option.map_eq_some_iff.2 ⟨_, hkept, rfl⟩
  | made => exact Option.map_eq_some_iff.2 ⟨_, Keyed.get?_insert_self _ _ _, rfl⟩

end Assembler

namespace Stage

variable {a : Assembler} {scope : Scope} {survey : Survey} {plan : Plan} {d d' : Desk}

theorem keptIn_of_runs {s : Stage} (h : s.Runs a scope survey plan d d') :
    d.externals.KeptIn d'.externals := by
  cases s with
  | external source out =>
    obtain ⟨hexternal, hruns⟩ := h
    have hkept := Assembler.keptIn_of_step a scope survey plan source d
    rw [Assembler.step, if_pos hexternal, hruns] at hkept
    exact hkept
  | own e =>
    obtain ⟨-, -, hdesk⟩ := h
    rw [hdesk]
    exact Externals.keptIn_refl _

/-- After some stages every external step among them is kept as it was assembled. -/
theorem kept_of_stages {stages : List Stage}
    (h : Chained (Stage.Runs a scope survey plan) d stages d') :
    d.externals.KeptIn d'.externals ∧
      ∀ source out, Stage.external source out ∈ stages →
        d'.externals.kept? source.content = some out := by
  induction stages generalizing d with
  | nil =>
    cases h
    exact ⟨Externals.keptIn_refl _, nofun⟩
  | cons s stages ih =>
    obtain ⟨d₁, hs, hstages⟩ := h
    obtain ⟨hlater, hkept⟩ := ih hstages
    refine ⟨(keptIn_of_runs hs).trans hlater, ?_⟩
    intro source out hmem
    rcases List.mem_cons.1 hmem with rfl | hmem
    · exact hlater.kept? (Assembler.kept_of_externalStep hs.2)
    · exact hkept source out hmem

end Stage

/-- The pre-test-case was assembled so that every external step became what is kept for it. -/
def PreTestCase.Reuses (p : PreTestCase) (scope : Scope) (c : Call) (x : Externals) : Prop :=
  ∃ i session external, ∃ course : Course c.assembler scope (Survey.of scope c.scenario).1
      c.scenario (c.assembler.freshDesk i session external) p,
    ∀ source out, Stage.external source out ∈ course.stages →
      x.kept? source.content = some out

theorem PreTestCase.Reuses.mono {p : PreTestCase} {scope : Scope} {c : Call} {x y : Externals}
    (h : p.Reuses scope c x) (hxy : x.KeptIn y) : p.Reuses scope c y := by
  obtain ⟨i, session, external, course, hkept⟩ := h
  refine ⟨i, session, external, course, ?_⟩
  intro source out hmem
  exact hxy.kept? (hkept source out hmem)

theorem Call.reuses {c : Call} {scope : Scope} {s : Session} {p : PreTestCase}
    (h : p ∈ (c.run scope s).1) : p.Reuses scope c (c.run scope s).2.externals := by
  obtain ⟨numbered, -, session, external, desk, hassemble, later, hlast⟩ :=
    Assembler.exists_assembly_of_mem_assembleAll h
  obtain ⟨-, course, hcourse⟩ := Assembler.exists_course hassemble
  -- The other plans have not changed what this one left behind.
  have hlater : course.desk.externals.KeptIn (c.run scope s).2.externals := by
    rw [hcourse]
    exact hlast ▸ Assembler.keptIn_of_assembleAll c.assembler scope _ c.scenario later desk.session
      desk.externalStream
  refine ⟨numbered.2, session, external, course, ?_⟩
  intro source out hmem
  exact hlater.kept? ((Stage.kept_of_stages course.stagesRun).2 source out hmem)

/-- Over calls on one session, whatever they are: what is kept before some of them is kept after all
of them, and every pre-test-case of every call has the steps that are kept in the end. In each
single step of a call nothing that is kept changes, and an external step that fails leaves all that
is kept, and the values that external steps have typed, as they were. -/
theorem kept_steps_never_change (scope : Scope) (session : Session) (calls : List Call) :
    let last := (session.after scope calls).externals
    (∀ before after, calls = before ++ after →
      (session.after scope before).externals.KeptIn last) ∧
    (∀ before call after, calls = before ++ call :: after →
      ∀ p ∈ (call.run scope (session.after scope before)).1, p.Reuses scope call last) ∧
    ∀ (a : Assembler) (survey : Survey) (plan : Plan) (step : Step) (desk : Desk),
      let (result, next) := a.step scope survey plan step desk
      desk.externals.KeptIn next.externals ∧
        (step.isExternal = true → result.toOption = none → next.externals = desk.externals) := by
  intro last
  refine ⟨?_, ?_, ?_⟩
  · intro before after hcalls
    have hafter := (session.after scope before).keptIn_after scope after
    rwa [← Session.after_append, ← hcalls] at hafter
  · intro before call after hcalls p hp
    have hafter := (call.run scope (session.after scope before)).2.keptIn_after scope after
    have hlast : last = ((call.run scope (session.after scope before)).2.after scope
        after).externals := by
      simp only [last, hcalls, Session.after_append]
      rfl
    rw [hlast]
    exact (Call.reuses hp).mono hafter
  · intro a survey plan step desk
    have hkept := Assembler.keptIn_of_step a scope survey plan step desk
    cases hstep : a.step scope survey plan step desk with
    | mk result next =>
      rw [hstep] at hkept
      refine ⟨hkept, ?_⟩
      intro hexternal hfailed
      cases result with
      | ok out => cases hfailed
      | error fault => exact Assembler.externals_of_failed hexternal hstep

def Call.givenUp : Call := ⟨{ seed := ⟨"scenaria"⟩ }, [Assembler.signingIn, Assembler.misplaced], []⟩

def Call.signing : Call := ⟨{ seed := ⟨"other"⟩ }, [Assembler.signingIn], []⟩

/-- Signing in is kept by a call whose only plan is given up, and reused by a call of another
assembler. -/
theorem signingIn_reused :
    let calls := [Call.givenUp, Call.signing]
    let last := (({} : Session).after Assembler.accounts calls).externals
    ∃ p, (Call.signing.run Assembler.accounts (({} : Session).after Assembler.accounts
        [Call.givenUp])).1 = [p] ∧
      p.lines = ["Given that I fill <user> with \"Ann\" # \x7bUser\x7d"] ∧
      p.Reuses Assembler.accounts Call.signing last := by
  intro calls last
  have hlines : (Call.signing.run Assembler.accounts (({} : Session).after Assembler.accounts
      [Call.givenUp])).1.map PreTestCase.lines =
        [["Given that I fill <user> with \"Ann\" # \x7bUser\x7d"]] := by
    decide +kernel
  obtain ⟨p, hp, hline⟩ := List.map_eq_singleton_iff.1 hlines
  have hreuses := (kept_steps_never_change Assembler.accounts {} calls).2.1 [Call.givenUp]
    Call.signing [] rfl p
  rw [hp] at hreuses
  exact ⟨p, hp, hline, hreuses List.mem_cons_self⟩

end TestDesign
