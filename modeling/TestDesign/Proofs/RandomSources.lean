import Mathlib
import TestDesign.Proofs.Drafting

/-!
# TestDesign.Proofs.RandomSources

Which random decisions of a run share a stream. A run draws the choices of its planners, the values
of its plans and those of its external steps, each from a stream of its own state
(`generate_eq_generateFrom`). But the texts that fix these streams are made of the seed of the run and
a number or a label alone, so `consumers_share_text_iff`: the external steps share theirs with
nothing, two plans of a run never do, nor do two choices of one planner, while the choices of all
planners for their plan number `j` and the values of plan number `j` replay the same words.
-/

namespace TestDesign

open TestDesign.Random

/-- What draws from a stream of its own in a run with the planners of the settings. -/
inductive Consumer where
  /-- The choice of cases among the offers of a planner. -/
  | choice (planner offers : Nat)
  /-- The values of a plan. -/
  | plan (i : Nat)
  | externalSteps
deriving DecidableEq

/-- The number that goes into the text of the consumer's stream. -/
def Consumer.number? : Consumer → Option Nat
  | choice _ j => some j
  | plan i => some i
  | externalSteps => none

/-! ## Texts -/

namespace Random.Seed

theorem child_inj {s : Seed} {label label' : String} :
    s.child label = s.child label' ↔ label = label' := by
  rw [child, child, Seed.mk.injEq]
  exact String.append_right_inj _

theorem nth_inj {s : Seed} {i j : Nat} : s.nth i = s.nth j ↔ i = j := by
  rw [nth, nth, child_inj]
  exact Nat.repr_inj

/-- A text with a character that is no digit does not write a number. -/
theorem nth_ne_child {s : Seed} {label : String} {c : Char} (hc : c ∈ label.toList)
    (hdigit : c.isDigit = false) (i : Nat) : s.nth i ≠ s.child label := by
  intro h
  have hlabel : i.repr = label := child_inj.1 h
  rw [← hlabel, Nat.toList_repr] at hc
  have hwritten : c.isDigit = true := Nat.isDigit_of_mem_toDigits (Nat.succ_pos 9) (Nat.le_refl 10) hc
  rw [hdigit] at hwritten
  cases hwritten

end Random.Seed

namespace Assembler

variable (a : Assembler)

/-- The seed that a consumer's stream is made from. All planners have the seed of the run. -/
def seedOf : Consumer → Seed
  | .choice _ j => a.seed.nth j
  | .plan i => a.seed.nth i
  | .externalSteps => a.externalSeed

theorem seedOf_eq_iff (c c' : Consumer) : a.seedOf c = a.seedOf c' ↔ c.number? = c'.number? := by
  have hexternal (i : Nat) : a.seed.nth i ≠ a.externalSeed := by
    have he : 'e' ∈ "external".toList := by decide
    exact Seed.nth_ne_child he (by decide) i
  have hexternal' (i : Nat) : a.externalSeed ≠ a.seed.nth i := (hexternal i).symm
  cases c <;> cases c' <;>
    simp [seedOf, Consumer.number?, Seed.nth_inj, hexternal, hexternal']

/-! ## Streams -/

/-- The plans of the strategies, drawn from given streams. -/
def plansFrom (streams : Consumer → Stream) (survey : Survey) : List Plan :=
  match a.settings.strategies.zipIdx.flatMap fun numbered =>
    (numbered.1.mix.select survey.map survey.keepValid).mapIdx fun j offers =>
      ((numbered.1.combination.combine offers).run (streams (.choice numbered.2 j))).1 with
  | [] => [{}]
  | plans => plans

def assembleAllFrom (streams : Consumer → Stream) (scope : Scope) (survey : Survey)
    (scenario : List Step) :
    List (Plan × Nat) → Session → Stream → List PreTestCase × Session
  | [], session, _ => ([], session)
  | (plan, i) :: plans, session, external =>
    match a.assemble scope survey plan scenario
        ⟨{ stream := streams (.plan i), reports := session.toReports }, session.externals,
          external⟩ with
    | (.ok p, desk) =>
      let (ps, session) := assembleAllFrom streams scope survey scenario plans desk.session
        desk.externalStream
      (p :: ps, session)
    | (.error fault, desk) =>
      assembleAllFrom streams scope survey scenario plans (desk.session.pushError fault)
        desk.externalStream

/-- The run of a scenario with a given stream for each consumer, and no other randomness. -/
def generateFrom (streams : Consumer → Stream) (scope : Scope) (scenario : List Step)
    (session : Session) : List PreTestCase × Session :=
  let (survey, notes) := Survey.of scope scenario
  a.assembleAllFrom streams scope survey scenario (a.plansFrom streams survey).zipIdx
    (session.pushAll notes) (streams .externalSteps)

variable {a} {scope : Scope} {survey : Survey} {scenario : List Step}

theorem plansOf_eq_plansFrom :
    plansOf survey a.planners = a.plansFrom (fun c => (a.seedOf c).stream) survey := by
  have hplans : (a.planners.flatMap fun p => p.plans survey.map survey.keepValid) =
      a.settings.strategies.zipIdx.flatMap fun numbered =>
        (numbered.1.mix.select survey.map survey.keepValid).mapIdx fun j offers =>
          ((numbered.1.combination.combine offers).run (a.seed.nth j).stream).1 := by
    have hstrategies : a.settings.strategies.zipIdx.map Prod.fst = a.settings.strategies :=
      List.zipIdx_map_fst ..
    rw [planners, Settings.planners, List.flatMap_map]
    conv => lhs; rw [← hstrategies, List.flatMap_map]
    rfl
  unfold plansOf plansFrom
  rw [hplans]
  rfl

theorem assembleAll_eq_assembleAllFrom (plans : List (Plan × Nat)) (session : Session)
    (external : Stream) :
    a.assembleAll scope survey scenario plans session external =
      a.assembleAllFrom (fun c => (a.seedOf c).stream) scope survey scenario plans session
        external := by
  induction plans generalizing session external with
  | nil => rfl
  | cons numbered plans ih =>
    unfold assembleAllFrom
    cases hassemble : a.assemble scope survey numbered.1 scenario
        (a.freshDesk numbered.2 session external) with
    | mk result desk =>
      have hfrom : a.assemble scope survey numbered.1 scenario
          ⟨{ stream := (a.seedOf (.plan numbered.2)).stream, reports := session.toReports },
            session.externals, external⟩ = (result, desk) := hassemble
      simp only [hfrom]
      cases result with
      | ok p => rw [assembleAll_of_ok hassemble, ih]
      | error fault => rw [assembleAll_of_error hassemble, ih]

theorem generate_eq_generateFrom (a : Assembler) (scope : Scope) (scenario : List Step)
    (session : Session) :
    a.generate scope scenario a.planners session =
      a.generateFrom (fun c => (a.seedOf c).stream) scope scenario session := by
  unfold generate generateFrom
  cases Survey.of scope scenario with
  | mk survey notes =>
    simp only [plansOf_eq_plansFrom, assembleAll_eq_assembleAllFrom, seedOf]

/-- A run with the planners of the settings takes all that is random in it from the streams of its
consumers; and the texts of two of them are equal exactly when they have the same number, whatever
the seed and the settings. -/
theorem consumers_share_text_iff (a : Assembler) (scope : Scope) (scenario : List Step)
    (session : Session) :
    a.generate scope scenario a.planners session =
        a.generateFrom (fun c => (a.seedOf c).stream) scope scenario session ∧
      ∀ c c', (a.seedOf c).text = (a.seedOf c').text ↔ c.number? = c'.number? := by
  refine ⟨generate_eq_generateFrom a scope scenario session, ?_⟩
  intro c c'
  have htext : (a.seedOf c).text = (a.seedOf c').text ↔ a.seedOf c = a.seedOf c' :=
    (Seed.mk.injEq _ _).to_iff.symm
  rw [htext]
  exact a.seedOf_eq_iff c c'

/-- What draws in a run: a choice for each of the offers of each planner, the values of each plan, and
the external steps. -/
def consumers (a : Assembler) (survey : Survey) : List Consumer :=
  (a.planners.zipIdx.flatMap fun numbered =>
    (List.range (numbered.1.mix.select survey.map survey.keepValid).length).map
      (.choice numbered.2)) ++
  (List.range (plansOf survey a.planners).length).map .plan ++ [.externalSteps]

/-- With the settings as they are, the first choice and the first plan share their text. -/
theorem choice_shares_text_with_plan :
    ¬ ∀ (a : Assembler) (scope : Scope) (scenario : List Step),
      (a.consumers (Survey.of scope scenario).1).Pairwise fun c c' =>
        (a.seedOf c).text ≠ (a.seedOf c').text := by
  intro h
  have hconsumers : consumers { seed := ⟨"scenaria"⟩ } (Survey.of ⟨⟨[]⟩, none⟩ []).1 =
      [.choice 0 0, .plan 0, .externalSteps] := by
    decide
  have hpairwise := h { seed := ⟨"scenaria"⟩ } ⟨⟨[]⟩, none⟩ []
  rw [hconsumers] at hpairwise
  exact (List.pairwise_cons.1 hpairwise).1 (.plan 0) List.mem_cons_self rfl

end Assembler

end TestDesign
