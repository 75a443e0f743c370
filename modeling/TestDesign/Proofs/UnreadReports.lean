import TestDesign.Proofs.Compositional
import TestDesign.Proofs.Reports

/-!
# TestDesign.Proofs.UnreadReports

What has been reported is never read. From drafts that differ only in their reports a part of the
assembly does the same, and reports the same notes behind whatever there was (`Unread`). The
operations on a draft are like that, and so is every sequence of such parts; hence so is all that a
plan makes of a scenario (`Brief.unread_testCase`).
-/

namespace TestDesign

open TestDesign.Random Drafting

def Unread {α : Type} (m : Drafting α) : Prop :=
  ∀ s : Draft, ∃ ns : List Note, ∀ r : Reports,
    m { s with reports := r } = ((m s).1, { (m s).2 with reports := r.pushAll ns })

section Unread

variable {α β : Type} {m : Drafting α}

theorem unread_of_silent
    (h : ∀ (s : Draft) (r : Reports),
      m { s with reports := r } = ((m s).1, { (m s).2 with reports := r })) :
    Unread m := fun s => ⟨[], h s⟩

/-- The notes of the second part come behind those of the first one. -/
theorem unread_bind {f : α → Drafting β} (hm : Unread m) (hf : ∀ x, Unread (f x)) :
    Unread (m >>= f) := by
  intro s
  obtain ⟨ns, hns⟩ := hm s
  cases hs : m s with
  | mk result s' =>
    rw [hs] at hns
    cases result with
    | error e =>
      refine ⟨ns, fun r => ?_⟩
      rw [run_bind, run_bind, hns, hs]
    | ok x =>
      obtain ⟨ns', hns'⟩ := hf x s'
      refine ⟨ns ++ ns', fun r => ?_⟩
      rw [run_bind, run_bind, hns, hs, Reports.pushAll_append]
      exact hns' (r.pushAll ns)

/-- What is read from a draft may be anything but its reports. -/
theorem unread_get {f : Draft → Drafting α}
    (hsame : ∀ s t : Draft, t.values = s.values → t.filled = s.filled → f t = f s)
    (hf : ∀ s, Unread (f s)) : Unread (get >>= f) := by
  intro s
  obtain ⟨ns, hns⟩ := hf s s
  refine ⟨ns, fun r => ?_⟩
  have hread : f { s with reports := r } = f s := hsame s { s with reports := r } rfl rfl
  show f { s with reports := r } { s with reports := r } = _
  rw [hread]
  exact hns r

theorem unread_markFilled (e : FilledElement) : Unread (markFilled e) := by
  refine unread_of_silent fun s r => Prod.ext rfl ?_
  show (if s.filled.any (·.var = e.var) then { s with reports := r }
    else { s with reports := r, filled := s.filled ++ [e] }) =
      { (if s.filled.any (·.var = e.var) then s else { s with filled := s.filled ++ [e] }) with
        reports := r }
  split <;> rfl

theorem unread_compositional : Compositional @Unread where
  pure _ := unread_of_silent fun _ _ => rfl
  throw _ _ := unread_of_silent fun _ _ => rfl
  bind := unread_bind
  get := unread_get
  draw _ := unread_of_silent fun _ _ => rfl
  note n _ := fun _ => ⟨[n], fun _ => rfl⟩
  remember _ _ := unread_of_silent fun _ _ => rfl

end Unread

namespace Brief

variable (b : Brief)

theorem unread_steps (step : Step) : Unread (b.steps step) :=
  unread_compositional.steps b step unread_markFilled

theorem unread_oracles : Unread b.oracles := unread_compositional.oracles b

theorem unread_stepsAll (scenario : List Step) : Unread (b.stepsAll scenario) := by
  induction scenario with
  | nil => exact unread_compositional.pure _
  | cons step scenario ih =>
    unfold stepsAll
    refine unread_bind (b.unread_steps step) fun _ => ?_
    exact unread_bind ih fun _ => unread_compositional.pure _

theorem unread_testCase (plan : Plan) (scenario : List Step) :
    Unread (b.testCase plan scenario) := by
  unfold testCase
  refine unread_bind (b.unread_stepsAll scenario) fun _ => ?_
  exact unread_bind b.unread_oracles fun _ => unread_compositional.pure _

end Brief

end TestDesign
