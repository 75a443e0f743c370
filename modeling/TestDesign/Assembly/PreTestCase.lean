import TestDesign.Assembly.Draft

/-!
# TestDesign.Assembly.PreTestCase

From a scenario to its pre-test-cases, one for each plan. A plan whose assembly fails is reported
and left out; the others are not affected.

Every plan draws from a stream of its own, derived from the seed and the number of the plan. An
external step is assembled once, from a stream of its own, when the first plan gets to it, and is
the same in all plans from then on.
-/

namespace TestDesign

open TestDesign.Random

/-- The steps of a scenario with values, and the checks for the invalid ones among them. -/
structure PreTestCase where
  plan : Plan
  steps : List Step
  oracles : List Step
deriving DecidableEq

namespace PreTestCase

/-- Whether the plan gives some element an invalid value. -/
def hasInvalid (p : PreTestCase) : Bool := p.plan.hasInvalid

/-- The steps as lines of a test case. -/
def lines (p : PreTestCase) : List String := p.steps.map Step.render

def oracleLines (p : PreTestCase) : List String := p.oracles.map Step.render

end PreTestCase

/-- What goes through the assembly of one plan: its draft, and the external steps with their
stream. -/
structure Desk where
  draft : Draft
  externals : Externals
  externalStream : Stream

/-- A part of the assembly of a plan, which may fail. -/
abbrev Assembling := ExceptT Diagnostic (StateM Desk)

namespace Desk

/-- Goes on with the draft of the plan. -/
def onDraft {α : Type} (d : Drafting α) : Assembling α := fun desk =>
  let (result, draft) := d desk.draft
  (result, { desk with draft })

/-- Takes over the values of an external step. -/
def adopt (d : Desk) (e : ExternalStep) : Desk :=
  { d with draft := { d.draft with values := d.draft.values.union e.values } }

/-- The draft on which an external step is assembled. -/
def externalDraft (d : Desk) : Draft where
  stream := d.externalStream
  values := d.externals.values
  reports := d.draft.reports

/-- What an assembled external step leaves behind besides its steps. -/
def afterExternal (d : Desk) (draft : Draft) : Desk :=
  { d with
    externalStream := draft.stream
    draft := { d.draft with reports := draft.reports } }

/-- What a plan leaves behind. -/
def session (d : Desk) : Session where
  toReports := d.draft.reports
  externals := d.externals

end Desk

/-- What assembles pre-test-cases: the words of the sentences, the settings and the seed. -/
structure Assembler where
  dictionary : Dictionary := .english
  settings : Settings := {}
  seed : Seed

namespace Assembler

variable (a : Assembler)

/-- The planners of the settings. -/
def planners : List Planner := a.settings.planners a.seed

def brief (scope : Scope) (survey : Survey) (plan : Option Plan) : Brief where
  dictionary := a.dictionary
  generator := a.settings.generator
  literalCase := a.settings.literalCase
  scope := scope
  survey := survey
  plan := plan

/-- An external step: as it was assembled before, or assembled now. -/
def externalStep (scope : Scope) (survey : Survey) (step : Step) : Assembling (List Step) :=
  fun desk =>
    match desk.externals.steps.get? step.content with
    | some e => (.ok e.steps, desk.adopt e)
    | none =>
      let (result, draft) := (a.brief scope survey none).steps step desk.externalDraft
      let desk := desk.afterExternal draft
      match result with
      | .error d => (.error d, desk)
      | .ok steps =>
        let e : ExternalStep := ⟨steps, draft.values⟩
        (.ok steps, { desk with externals := desk.externals.insert step.content e }.adopt e)

/-- What a step of the scenario becomes. -/
def step (scope : Scope) (survey : Survey) (plan : Plan) (step : Step) : Assembling (List Step) :=
  if step.isExternal then a.externalStep scope survey step
  else Desk.onDraft ((a.brief scope survey (some plan)).steps step)

def steps (scope : Scope) (survey : Survey) (plan : Plan) : List Step → Assembling (List Step)
  | [] => return []
  | s :: ss => do
    let first ← a.step scope survey plan s
    return first ++ (← steps scope survey plan ss)

/-- The pre-test-case of a plan. -/
def assemble (scope : Scope) (survey : Survey) (plan : Plan) (scenario : List Step) :
    Assembling PreTestCase := do
  let steps ← a.steps scope survey plan scenario
  let oracles ← Desk.onDraft (a.brief scope survey (some plan)).oracles
  return { plan, steps, oracles }

/-- The seed of the external steps. -/
def externalSeed : Seed := a.seed.child "external"

/-- The plans of all planners; a single empty one when there is none. -/
def plansOf (survey : Survey) (planners : List Planner) : List Plan :=
  match planners.flatMap fun p => p.plans survey.map survey.keepValid with
  | [] => [{}]
  | plans => plans

/-- The desk before the first step of plan number `i`: nothing is typed yet. -/
def freshDesk (i : Nat) (session : Session) (external : Stream) : Desk where
  draft := { stream := (a.seed.nth i).stream, reports := session.toReports }
  externals := session.externals
  externalStream := external

/-- The pre-test-cases of plans with their numbers. -/
def assembleAll (scope : Scope) (survey : Survey) (scenario : List Step) :
    List (Plan × Nat) → Session → Stream → List PreTestCase × Session
  | [], session, _ => ([], session)
  | (plan, i) :: plans, session, external =>
    let (result, desk) := a.assemble scope survey plan scenario (a.freshDesk i session external)
    match result with
    | .ok p =>
      let (ps, session) :=
        assembleAll scope survey scenario plans desk.session desk.externalStream
      (p :: ps, session)
    | .error d =>
      assembleAll scope survey scenario plans (desk.session.pushError d) desk.externalStream

/-- The pre-test-cases of a scenario, and the session after them. -/
def generate (scope : Scope) (scenario : List Step) (planners : List Planner)
    (session : Session) : List PreTestCase × Session :=
  let (survey, notes) := Survey.of scope scenario
  a.assembleAll scope survey scenario (plansOf survey planners).zipIdx (session.pushAll notes)
    a.externalSeed.stream

end Assembler

end TestDesign
