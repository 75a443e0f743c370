import Mathlib.Logic.Relation
import TestDesign.Proofs.UnreadReports

/-!
# TestDesign.Proofs.Preparations

What runs make of the external steps of a scenario. All plans draw for them from one stream, and a
plan may be given up anywhere between two of them. But only the first external step that is not kept
yet is ever assembled, so there is only one way to go on (`next_unique`), and whatever the plans are,
a run goes along it for a while (`reaches_of_generate`).

Hence kept steps stay as they are (`keptIn_of_generate`), and what two runs with different planners
both keep is the same (`kept_steps_do_not_depend_on_planners`).
-/

namespace TestDesign

open Relation TestDesign.Random

namespace Externals

/-- What is kept in the first collection is kept in the second one, with the same steps and
values. -/
def KeptIn (x y : Externals) : Prop :=
  ∀ content e, x.steps.get? content = some e → y.steps.get? content = some e

theorem keptIn_refl (x : Externals) : x.KeptIn x := fun _ _ h => h

theorem KeptIn.trans {x y z : Externals} (hxy : x.KeptIn y) (hyz : y.KeptIn z) : x.KeptIn z :=
  fun content e h => hyz content e (hxy content e h)

theorem keptIn_insert {x : Externals} {content : String} (e : ExternalStep)
    (hnew : x.steps.get? content = none) : x.KeptIn (x.insert content e) := by
  intro content' e' he'
  have hne : content' ≠ content := by
    intro heq
    rw [heq, hnew] at he'
    cases he'
  rw [insert, Keyed.get?_insert_ne _ _ hne]
  exact he'

/-- An external step that is not kept. -/
def lacks (x : Externals) (s : Step) : Bool := s.isExternal && !x.steps.contains s.content

theorem lacks_eq_true {x : Externals} {s : Step} :
    x.lacks s = true ↔ s.isExternal = true ∧ x.steps.get? s.content = none := by
  simp [lacks, Keyed.contains]

theorem lacks_of_kept {x : Externals} {s : Step} {e : ExternalStep}
    (h : x.steps.get? s.content = some e) : x.lacks s = false := by
  simp [lacks, Keyed.contains, h]

theorem KeptIn.lacks {x y : Externals} (h : x.KeptIn y) {s : Step} (hs : x.lacks s = false) :
    y.lacks s = false := by
  rw [Bool.eq_false_iff, ne_eq, lacks_eq_true]
  rintro ⟨hexternal, hy⟩
  have hx : x.steps.get? s.content ≠ none := by
    intro hx
    rw [lacks_eq_true.2 ⟨hexternal, hx⟩] at hs
    cases hs
  obtain ⟨e, he⟩ := Option.ne_none_iff_exists'.1 hx
  rw [h _ _ he] at hy
  cases hy

end Externals

/-- The external steps that are kept, and the stream for those to come. -/
structure Preparation where
  externals : Externals
  stream : Stream

def Desk.preparation (d : Desk) : Preparation := ⟨d.externals, d.externalStream⟩

namespace Preparation

variable (a : Assembler) (scope : Scope) (survey : Survey)

/-- The first external step of a scenario that is not kept. -/
def pending? (x : Preparation) (scenario : List Step) : Option Step :=
  scenario.find? x.externals.lacks

/-- Assembles an external step. One that fails has drawn from the stream all the same. -/
def attempt (x : Preparation) (step : Step) : Preparation :=
  match (a.brief scope survey none).steps step
      { stream := x.stream, values := x.externals.values } with
  | (.ok out, draft) => ⟨x.externals.insert step.content ⟨out, draft.values⟩, draft.stream⟩
  | (.error _, draft) => ⟨x.externals, draft.stream⟩

/-- The preparation after the next attempt. -/
def Next (scenario : List Step) (x y : Preparation) : Prop :=
  ∃ step, x.pending? scenario = some step ∧ y = x.attempt a scope survey step

variable {a scope survey} {x y : Preparation} {scenario : List Step}

theorem next_unique : Relator.RightUnique (Next a scope survey scenario) := by
  rintro x y z ⟨step, hstep, rfl⟩ ⟨step', hstep', rfl⟩
  rw [hstep] at hstep'
  cases hstep'
  rfl

theorem pending?_of_split {before rest : List Step} {step : Step}
    (hbefore : ∀ s ∈ before, x.externals.lacks s = false) (hstep : x.externals.lacks step = true) :
    x.pending? (before ++ step :: rest) = some step := by
  refine List.find?_eq_some_iff_append.2 ⟨hstep, before, rest, rfl, ?_⟩
  intro s hs
  simp [hbefore s hs]

theorem Next.keptIn (h : Next a scope survey scenario x y) : x.externals.KeptIn y.externals := by
  obtain ⟨step, hstep, rfl⟩ := h
  have hnew := (Externals.lacks_eq_true.1 (List.find?_some hstep)).2
  unfold attempt
  split
  · exact Externals.keptIn_insert _ hnew
  · exact Externals.keptIn_refl _

theorem keptIn_of_reaches (h : ReflTransGen (Next a scope survey scenario) x y) :
    x.externals.KeptIn y.externals := by
  induction h with
  | refl => exact Externals.keptIn_refl _
  | tail _ hnext ih => exact ih.trans hnext.keptIn

end Preparation

open Preparation

namespace Assembler

variable {a : Assembler} {scope : Scope} {survey : Survey} {plan : Plan} {scenario : List Step}
  {step : Step} {desk desk' : Desk}

/-- An external step that is not kept is attempted. -/
theorem preparation_of_lacking (hlacks : desk.externals.lacks step = true) :
    (a.externalStep scope survey step desk).2.preparation =
      desk.preparation.attempt a scope survey step := by
  have hnew := (Externals.lacks_eq_true.1 hlacks).2
  -- What the desk has reported makes no difference.
  obtain ⟨ns, hns⟩ := (a.brief scope survey none).unread_steps step
    { stream := desk.externalStream, values := desk.externals.values }
  have hdesk : (a.brief scope survey none).steps step desk.externalDraft = _ :=
    hns desk.draft.reports
  unfold attempt
  cases hfresh : (a.brief scope survey none).steps step
      { stream := desk.preparation.stream, values := desk.preparation.externals.values } with
  | mk drafted fresh =>
    rw [show (a.brief scope survey none).steps step
      { stream := desk.externalStream, values := desk.externals.values } = _ from hfresh] at hdesk
    cases h : a.externalStep scope survey step desk with
    | mk result desk' =>
      cases externalOutcome a scope survey h with
      | again hkept =>
        rw [hkept] at hnew
        cases hnew
      | failed _ hrun =>
        cases hdesk.symm.trans hrun
        rfl
      | made _ hrun =>
        cases hdesk.symm.trans hrun
        rfl

/-- An external step that is kept is taken as it is. -/
theorem preparation_of_kept {e : ExternalStep}
    (hkept : desk.externals.steps.get? step.content = some e) :
    (a.externalStep scope survey step desk).2.preparation = desk.preparation := by
  simp only [externalStep, hkept]
  rfl

/-- A step that succeeds is kept from then on, if it is external. -/
theorem lacks_of_step {out : List Step}
    (h : a.step scope survey plan step desk = (.ok out, desk')) :
    desk'.externals.lacks step = false := by
  unfold Assembler.step at h
  split at h
  · cases externalOutcome a scope survey h with
    | again hkept => exact Externals.lacks_of_kept hkept
    | made => exact Externals.lacks_of_kept (Keyed.get?_insert_self _ _ _)
  · rename_i hown
    simp [Externals.lacks, hown]

/-- The second desk lies on the line of preparations that starts with the first one. -/
def Reaches (a : Assembler) (scope : Scope) (survey : Survey) (scenario : List Step)
    (desk desk' : Desk) : Prop :=
  ReflTransGen (Next a scope survey scenario) desk.preparation desk'.preparation

theorem reaches_trans (d d' d'' : Desk) (h : a.Reaches scope survey scenario d d')
    (h' : a.Reaches scope survey scenario d' d'') : a.Reaches scope survey scenario d d'' :=
  ReflTransGen.trans h h'

section Reaches

variable (a scope survey plan)

theorem reaches_of_step {before : List Step} (step : Step) (rest : List Step)
    (hbefore : ∀ s ∈ before, desk.externals.lacks s = false) :
    a.Reaches scope survey (before ++ step :: rest) desk
      (a.step scope survey plan step desk).2 := by
  unfold Assembler.step Reaches
  split
  · rename_i hexternal
    cases hkept : desk.externals.steps.get? step.content with
    | some e =>
      rw [preparation_of_kept hkept]
    | none =>
      have hlacks := Externals.lacks_eq_true.2 ⟨hexternal, hkept⟩
      exact .single ⟨step, pending?_of_split hbefore hlacks, preparation_of_lacking hlacks⟩
  · -- The draft alone changes.
    exact .refl

/-- The steps from some place of the scenario on, when the external ones before it are kept. -/
theorem reaches_of_steps (before rest : List Step)
    (hbefore : ∀ s ∈ before, desk.externals.lacks s = false) :
    a.Reaches scope survey (before ++ rest) desk (a.steps scope survey plan rest desk).2 := by
  induction rest generalizing before desk with
  | nil => exact ReflTransGen.refl
  | cons step rest ih =>
    have hfirst := reaches_of_step a scope survey plan step rest hbefore
    unfold Assembler.steps
    refine related_bind reaches_trans hfirst ?_
    intro out desk₁ hstep
    rw [hstep] at hfirst
    have hbefore' : ∀ s ∈ before ++ [step], desk₁.externals.lacks s = false := by
      intro s hs
      rcases List.mem_append.1 hs with hs | hs
      · exact (keptIn_of_reaches hfirst).lacks (hbefore s hs)
      · cases List.mem_singleton.1 hs
        exact lacks_of_step hstep
    have hrest := ih (before ++ [step]) hbefore'
    rw [List.append_assoc, List.singleton_append] at hrest
    exact related_bind reaches_trans hrest fun _ _ _ => ReflTransGen.refl

theorem reaches_of_assemble (scenario : List Step) (desk : Desk) :
    a.Reaches scope survey scenario desk (a.assemble scope survey plan scenario desk).2 := by
  have hsteps : a.Reaches scope survey scenario desk (a.steps scope survey plan scenario desk).2 :=
    reaches_of_steps a scope survey plan [] scenario (List.forall_mem_nil _)
  unfold assemble
  refine related_bind reaches_trans hsteps ?_
  intro steps desk₁ _
  -- The checks change the draft alone.
  have hchecks : a.Reaches scope survey scenario desk₁
    (Desk.onDraft (a.brief scope survey (some plan)).oracles desk₁).2 := ReflTransGen.refl
  exact related_bind reaches_trans hchecks fun _ _ _ => ReflTransGen.refl

theorem reaches_of_assembleAll (scenario : List Step) (plans : List (Plan × Nat)) (session : Session)
    (external : Stream) :
    ∃ stream, ReflTransGen (Next a scope survey scenario) ⟨session.externals, external⟩
      ⟨(a.assembleAll scope survey scenario plans session external).2.externals, stream⟩ := by
  -- Between two plans nothing is attempted, so a plan goes on where the one before it stopped.
  let Q (s : Session) (stream : Stream) : Prop :=
    ReflTransGen (Next a scope survey scenario) ⟨session.externals, external⟩ ⟨s.externals, stream⟩
  refine assembleAll_invariant (Q := Q) ?_ .refl
  intro numbered _ s stream result desk hsofar hassemble
  have hplan : ReflTransGen (Next a scope survey scenario) ⟨s.externals, stream⟩
      ⟨desk.externals, desk.externalStream⟩ := by
    have hreach := reaches_of_assemble a scope survey numbered.1 scenario
      (a.freshDesk numbered.2 s stream)
    rwa [hassemble] at hreach
  rw [← desk.externals_afterPlan result] at hplan
  exact hsofar.trans hplan

/-! ## What is kept -/

theorem keptIn_of_step (step : Step) (desk : Desk) :
    desk.externals.KeptIn (a.step scope survey plan step desk).2.externals :=
  keptIn_of_reaches (reaches_of_step a scope survey plan step [] (List.forall_mem_nil _))

theorem keptIn_of_steps (scenario : List Step) (desk : Desk) :
    desk.externals.KeptIn (a.steps scope survey plan scenario desk).2.externals :=
  keptIn_of_reaches (reaches_of_steps a scope survey plan [] scenario (List.forall_mem_nil _))

theorem keptIn_of_assembleAll (scenario : List Step) (plans : List (Plan × Nat))
    (session : Session) (external : Stream) :
    session.externals.KeptIn
      (a.assembleAll scope survey scenario plans session external).2.externals := by
  obtain ⟨stream, hreach⟩ := reaches_of_assembleAll a scope survey scenario plans session external
  exact keptIn_of_reaches hreach

end Reaches

/-- A run goes along the line of preparations that starts with what the session keeps. -/
theorem reaches_of_generate (a : Assembler) (scope : Scope) (scenario : List Step)
    (planners : List Planner) (session : Session) :
    ∃ stream, ReflTransGen (Next a scope (Survey.of scope scenario).1 scenario)
      ⟨session.externals, a.externalSeed.stream⟩
      ⟨(a.generate scope scenario planners session).2.externals, stream⟩ := by
  exact reaches_of_assembleAll a scope (Survey.of scope scenario).1 scenario
    (plansOf (Survey.of scope scenario).1 planners).zipIdx
    (session.pushAll (Survey.of scope scenario).2) a.externalSeed.stream

/-- A run keeps what the session has kept. -/
theorem keptIn_of_generate (a : Assembler) (scope : Scope) (scenario : List Step)
    (planners : List Planner) (session : Session) :
    session.externals.KeptIn (a.generate scope scenario planners session).2.externals := by
  obtain ⟨stream, hreach⟩ := reaches_of_generate a scope scenario planners session
  exact keptIn_of_reaches hreach

/-- Of two runs on sessions that keep the same external steps one goes on where the other one
stops. -/
theorem keptIn_or_keptIn (a : Assembler) (scope : Scope) (scenario : List Step)
    (planners planners' : List Planner) (session session' : Session)
    (h : session.externals = session'.externals) :
    (a.generate scope scenario planners session).2.externals.KeptIn
        (a.generate scope scenario planners' session').2.externals ∨
      (a.generate scope scenario planners' session').2.externals.KeptIn
        (a.generate scope scenario planners session).2.externals := by
  obtain ⟨stream, hreach⟩ := reaches_of_generate a scope scenario planners session
  obtain ⟨stream', hreach'⟩ := reaches_of_generate a scope scenario planners' session'
  rw [← h] at hreach'
  rcases ReflTransGen.total_of_right_unique next_unique hreach hreach' with hfurther | hfurther
  · exact .inl (keptIn_of_reaches hfurther)
  · exact .inr (keptIn_of_reaches hfurther)

/-- An external step that two runs with the same seed keep became the same steps in both and typed
the same values, whatever the planners were and whichever of their plans were given up. -/
theorem kept_steps_do_not_depend_on_planners (a : Assembler) (scope : Scope) (scenario : List Step)
    (planners planners' : List Planner) {content : String} {e e' : ExternalStep}
    (h : (a.generate scope scenario planners {}).2.externals.steps.get? content = some e)
    (h' : (a.generate scope scenario planners' {}).2.externals.steps.get? content = some e') :
    e = e' := by
  rcases keptIn_or_keptIn a scope scenario planners planners' {} {} rfl with hin | hin
  · have he := hin content e h
    rw [h'] at he
    cases he
    rfl
  · have he := hin content e' h'
    rw [h] at he
    cases he
    rfl

def accounts : Scope where
  spec := ⟨[doc]⟩
  here := some doc
where
  doc : Document := { path := "a.feature", elements := [{ name := "User" }] }

def signingIn : Step where
  content := "Given that I fill \x7bUser\x7d with \"Ann\""
  kind := .givenStep
  location := {}
  entities := [⟨.action, "fill", "fill", 13, none⟩,
    ⟨.element, "User", "\x7bUser\x7d", 18, none⟩, ⟨.value, "Ann", "\"Ann\"", 30, none⟩]
  isExternal := true

/-- An entity that does not stand where it says. -/
def misplaced : Step where
  content := "When I fill \x7bUser\x7d"
  kind := .whenStep
  location := {}
  entities := [⟨.action, "fill", "fill", 7, none⟩, ⟨.element, "User", "\x7bUser\x7d", 3, none⟩]

/-- What a run keeps for signing in. -/
def keptForSigningIn (scenario : List Step) (planners : List Planner) : Option ExternalStep :=
  (generate { seed := ⟨"scenaria"⟩ } accounts scenario planners {}).2.externals.steps.get?
    signingIn.content

/-- All plans are given up after signing in, with planners and without. -/
theorem signingIn_kept_alike :
    ∃ e e', keptForSigningIn [signingIn, misplaced] [] = some e ∧
      keptForSigningIn [signingIn, misplaced]
        [⟨⟨.unfiltered, .indexOfEach 0⟩, ⟨"other"⟩⟩] = some e' ∧
      e = e' ∧ (e.values.get? "User").map Value.inSentence = some "\"Ann\"" := by
  have h : ((keptForSigningIn [signingIn, misplaced] []).bind
      fun e => (e.values.get? "User").map Value.inSentence) = some "\"Ann\"" := by
    decide +kernel
  have h' : (keptForSigningIn [signingIn, misplaced]
      [⟨⟨.unfiltered, .indexOfEach 0⟩, ⟨"other"⟩⟩]).isSome = true := by
    decide +kernel
  obtain ⟨e, he, hvalue⟩ := Option.bind_eq_some_iff.1 h
  obtain ⟨e', he'⟩ := Option.isSome_iff_exists.1 h'
  exact ⟨e, e', he, he', kept_steps_do_not_depend_on_planners _ _ _ _ _ he he', hvalue⟩

end Assembler

end TestDesign
