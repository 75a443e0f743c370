import TestDesign.Assembly.PreTestCase

/-!
# TestDesign.Proofs.Drafting

What a part of the assembly gives, taken apart along its own parts (`gives_bind`), and what each
operation on a draft does to the values that are remembered.

Without external steps the assembly of a plan is a part of the assembly of its draft: it neither
reads nor changes the external steps that other plans leave behind (`assemble_eq_onDraft`).
-/

namespace TestDesign

open TestDesign.Random

/-- A sequence goes on from the state that its first part leaves behind, unless that part fails. -/
theorem run_bind {σ α β : Type} (m : ExceptT Diagnostic (StateM σ) α)
    (f : α → ExceptT Diagnostic (StateM σ) β) (s : σ) :
    (m >>= f) s =
      match m s with
      | (.ok x, s') => f x s'
      | (.error e, s') => (.error e, s') := by
  simp only [bind, ExceptT.bind, ExceptT.mk, ExceptT.bindCont, StateT.bind]
  cases m s with
  | mk result s' =>
    cases result with
    | ok x => rfl
    | error e => rfl

/-- A sequence succeeds when its parts succeed one after the other. -/
theorem run_bind_eq_ok {σ α β : Type} {m : ExceptT Diagnostic (StateM σ) α}
    {f : α → ExceptT Diagnostic (StateM σ) β} {s s'' : σ} {y : β} :
    (m >>= f) s = (.ok y, s'') ↔ ∃ x s', m s = (.ok x, s') ∧ f x s' = (.ok y, s'') := by
  rw [run_bind]
  constructor
  · intro h
    cases hm : m s with
    | mk result s₁ =>
      rw [hm] at h
      cases result with
      | ok x => exact ⟨x, s₁, rfl, h⟩
      | error e => cases h
  · rintro ⟨x, s', hm, hf⟩
    rw [hm]
    exact hf

/-- A transitive relation holds between the states before and after a sequence when it does for
its parts, whether they succeed or fail. -/
theorem related_bind {σ α β : Type} {R : σ → σ → Prop} {m : ExceptT Diagnostic (StateM σ) α}
    {f : α → ExceptT Diagnostic (StateM σ) β} {s : σ} (htrans : ∀ s t u, R s t → R t u → R s u)
    (hm : R s (m s).2) (hf : ∀ x s', m s = (.ok x, s') → R s' (f x s').2) :
    R s ((m >>= f) s).2 := by
  rw [run_bind]
  cases hms : m s with
  | mk result s' =>
    rw [hms] at hm
    cases result with
    | ok x => exact htrans s s' _ hm (hf x s' hms)
    | error e => exact hm

/-- From states with the property the computation leads to such states, whether it succeeds or
fails. -/
def Preserves {σ α : Type} (P : σ → Prop) (m : ExceptT Diagnostic (StateM σ) α) : Prop :=
  ∀ s, P s → P (m s).2

theorem preserves_bind {σ α β : Type} {P : σ → Prop} {m : ExceptT Diagnostic (StateM σ) α}
    {f : α → ExceptT Diagnostic (StateM σ) β} (hm : Preserves P m) (hf : ∀ x, Preserves P (f x)) :
    Preserves P (m >>= f) := by
  intro s h
  have hfirst := hm s h
  rw [run_bind]
  cases hms : m s with
  | mk result s' =>
    rw [hms] at hfirst
    cases result with
    | ok x => exact hf x s' hfirst
    | error e => exact hfirst

namespace Drafting

variable {α β : Type} {s s' s'' : Draft} {x : α} {y : β}

/-- The part of the assembly succeeds with a result and leaves a draft behind. -/
def Gives (d : Drafting α) (s : Draft) (x : α) (s' : Draft) : Prop := d s = (.ok x, s')

theorem gives_pure {x' : α} : Gives (pure x') s x s' ↔ x = x' ∧ s' = s := by
  constructor
  · intro h
    cases h
    exact ⟨rfl, rfl⟩
  · rintro ⟨rfl, rfl⟩
    rfl

theorem gives_bind {d : Drafting α} {f : α → Drafting β} :
    Gives (d >>= f) s y s'' ↔ ∃ x s', Gives d s x s' ∧ Gives (f x) s' y s'' := run_bind_eq_ok

theorem not_gives_throw {e : Diagnostic} : ¬ Gives (throw e : Drafting α) s x s' := nofun

theorem gives_get {s₀ : Draft} : Gives get s s₀ s' ↔ s₀ = s ∧ s' = s := by
  constructor
  · intro h
    cases h
    exact ⟨rfl, rfl⟩
  · rintro ⟨rfl, rfl⟩
    rfl

theorem values_of_draw {d : Draw α} (h : Gives (draw d) s x s') : s'.values = s.values := by
  cases h
  rfl

theorem values_of_note {n : Note} {u : Unit} (h : Gives (note n) s u s') :
    s'.values = s.values := by
  cases h
  rfl

theorem values_of_warn {d : Diagnostic} {u : Unit} (h : Gives (warn d) s u s') :
    s'.values = s.values := values_of_note h

theorem values_of_remember {var : String} {v : Value} {u : Unit}
    (h : Gives (remember var v) s u s') : s'.values = s.values.insert var v := by
  cases h
  rfl

theorem values_of_markFilled {e : FilledElement} {u : Unit} (h : Gives (markFilled e) s u s') :
    s'.values = s.values := by
  cases h
  dsimp only
  split <;> rfl

end Drafting

namespace Desk

variable {α β : Type}

theorem onDraft_pure (x : α) : onDraft (pure x) = pure x := rfl

/-- Going on with a draft twice is going on with it once. -/
theorem onDraft_bind (d : Drafting α) (f : α → Drafting β) :
    onDraft (d >>= f) = (onDraft d >>= fun x => onDraft (f x)) := by
  funext desk
  obtain ⟨draft, externals, stream⟩ := desk
  simp only [onDraft, run_bind]
  cases hd : d draft with
  | mk result draft' =>
    cases result with
    | ok x => rfl
    | error e => rfl

theorem gives_of_onDraft {d : Drafting α} {x : α} {desk desk' : Desk}
    (h : onDraft d desk = (.ok x, desk')) :
    Drafting.Gives d desk.draft x desk'.draft ∧ desk' = { desk with draft := desk'.draft } := by
  unfold onDraft at h
  cases hd : d desk.draft with
  | mk result draft =>
    rw [hd] at h
    cases h
    exact ⟨hd, rfl⟩

end Desk

namespace Brief

variable (b : Brief)

/-- What the steps of a scenario become. -/
def stepsAll : List Step → Drafting (List Step)
  | [] => return []
  | s :: ss => do
    let first ← b.steps s
    return first ++ (← stepsAll ss)

/-- The pre-test-case of a plan. -/
def testCase (plan : Plan) (scenario : List Step) : Drafting PreTestCase := do
  let steps ← b.stepsAll scenario
  let oracles ← b.oracles
  return { plan, steps, oracles }

end Brief

namespace Assembler

variable (a : Assembler) (scope : Scope) (survey : Survey) (plan : Plan)

theorem steps_eq_onDraft {scenario : List Step} (h : ∀ s ∈ scenario, s.isExternal = false) :
    a.steps scope survey plan scenario =
      Desk.onDraft ((a.brief scope survey (some plan)).stepsAll scenario) := by
  induction scenario with
  | nil => rfl
  | cons s ss ih =>
    have hs : s.isExternal = false := h s List.mem_cons_self
    have hss := ih fun s hs => h s (List.mem_cons_of_mem _ hs)
    simp only [steps, step, hs, hss, Brief.stepsAll, Desk.onDraft_bind, Desk.onDraft_pure,
      Bool.false_eq_true, if_false]

theorem assemble_eq_onDraft {scenario : List Step} (h : ∀ s ∈ scenario, s.isExternal = false) :
    a.assemble scope survey plan scenario =
      Desk.onDraft ((a.brief scope survey (some plan)).testCase plan scenario) := by
  simp only [assemble, steps_eq_onDraft a scope survey plan h, Brief.testCase, Desk.onDraft_bind,
    Desk.onDraft_pure]

/-! ## External steps -/

/-- What an external step comes to: it is there already, or it is assembled now, which fails or
not. -/
inductive ExternalOutcome (step : Step) (desk : Desk) :
    Except Diagnostic (List Step) → Desk → Prop
  | again {e : ExternalStep} (hkept : desk.externals.steps.get? step.content = some e) :
    ExternalOutcome step desk (.ok e.steps) (desk.adopt e)
  | failed {fault : Diagnostic} {draft : Draft}
    (hnew : desk.externals.steps.get? step.content = none)
    (hrun : (a.brief scope survey none).steps step desk.externalDraft = (.error fault, draft)) :
    ExternalOutcome step desk (.error fault) (desk.afterExternal draft)
  | made {out : List Step} {draft : Draft}
    (hnew : desk.externals.steps.get? step.content = none)
    (hrun : (a.brief scope survey none).steps step desk.externalDraft = (.ok out, draft)) :
    ExternalOutcome step desk (.ok out)
      ({ desk.afterExternal draft with
        externals := desk.externals.insert step.content ⟨out, draft.values⟩ }.adopt
          ⟨out, draft.values⟩)

theorem externalOutcome {step : Step} {desk desk' : Desk} {result : Except Diagnostic (List Step)}
    (h : a.externalStep scope survey step desk = (result, desk')) :
    a.ExternalOutcome scope survey step desk result desk' := by
  cases hcache : desk.externals.steps.get? step.content with
  | some e =>
    simp only [externalStep, hcache] at h
    cases h
    exact .again hcache
  | none =>
    cases hsteps : (a.brief scope survey none).steps step desk.externalDraft with
    | mk drafted draft =>
      simp only [externalStep, hcache, hsteps] at h
      cases drafted with
      | error fault =>
        cases h
        exact .failed hcache hsteps
      | ok out =>
        cases h
        exact .made hcache hsteps

end Assembler

/-! ## Plan after plan -/

/-- The session after a plan, which is told why the plan was given up, if it was. -/
def Desk.afterPlan (desk : Desk) : Except Diagnostic PreTestCase → Session
  | .ok _ => desk.session
  | .error fault => desk.session.pushError fault

theorem Desk.externals_afterPlan (desk : Desk) (result : Except Diagnostic PreTestCase) :
    (desk.afterPlan result).externals = desk.externals := by
  cases result <;> rfl

namespace Assembler

variable {a : Assembler} {scope : Scope} {survey : Survey} {scenario : List Step}
  {numbered : Plan × Nat} {plans : List (Plan × Nat)} {session : Session} {external : Stream}
  {desk : Desk}

theorem assembleAll_of_ok {p : PreTestCase}
    (h : a.assemble scope survey numbered.1 scenario
      (a.freshDesk numbered.2 session external) = (.ok p, desk)) :
    a.assembleAll scope survey scenario (numbered :: plans) session external =
      (p :: (a.assembleAll scope survey scenario plans desk.session desk.externalStream).1,
        (a.assembleAll scope survey scenario plans desk.session desk.externalStream).2) := by
  simp only [assembleAll, h]

theorem assembleAll_of_error {fault : Diagnostic}
    (h : a.assemble scope survey numbered.1 scenario
      (a.freshDesk numbered.2 session external) = (.error fault, desk)) :
    a.assembleAll scope survey scenario (numbered :: plans) session external =
      a.assembleAll scope survey scenario plans (desk.session.pushError fault)
        desk.externalStream := by
  simp only [assembleAll, h]

/-- What every plan preserves, of the session and the stream for external steps, holds after all of
them. -/
theorem assembleAll_invariant {Q : Session → Stream → Prop}
    (hplan : ∀ numbered ∈ plans, ∀ session external result desk, Q session external →
      a.assemble scope survey numbered.1 scenario
          (a.freshDesk numbered.2 session external) = (result, desk) →
        Q (desk.afterPlan result) desk.externalStream)
    (h : Q session external) :
    ∃ stream, Q (a.assembleAll scope survey scenario plans session external).2 stream := by
  induction plans generalizing session external with
  | nil => exact ⟨external, h⟩
  | cons numbered plans ih =>
    have hothers := fun n hn => hplan n (List.mem_cons_of_mem _ hn)
    cases hassemble : a.assemble scope survey numbered.1 scenario
        (a.freshDesk numbered.2 session external) with
    | mk result desk =>
      have hnext := hplan numbered List.mem_cons_self session external result desk h hassemble
      cases result with
      | ok p =>
        rw [assembleAll_of_ok hassemble]
        exact ih hothers hnext
      | error fault =>
        rw [assembleAll_of_error hassemble]
        exact ih hothers hnext

theorem assembleAll_preserves {Q : Session → Prop}
    (hplan : ∀ numbered ∈ plans, ∀ session external result desk, Q session →
      a.assemble scope survey numbered.1 scenario
          (a.freshDesk numbered.2 session external) = (result, desk) →
        Q (desk.afterPlan result))
    (h : Q session) : Q (a.assembleAll scope survey scenario plans session external).2 := by
  obtain ⟨-, hlast⟩ := assembleAll_invariant (Q := fun s _ => Q s) hplan h
  exact hlast

end Assembler

end TestDesign
