import TestDesign.Scenario.Expectation

/-!
# TestDesign.Scenario.Run

Scenarios with expectations: sentences over documents, the settings to run them with, and what
their pre-test-cases have to look like.
-/

namespace TestDesign

open TestDesign.Random

/-- A sentence of a scenario. -/
structure ScenarioSentence where
  text : String
  isExternal : Bool := false

/-- A scenario to be run. The first document is the current one. -/
structure Scenario where
  name : String
  documents : List Document := []
  sentences : List ScenarioSentence := []
  dictionary : Dictionary := .english
  settings : Settings := {}
  seed : Seed
  /-- The strategies; those of the settings when there are none. -/
  strategies : List Strategy := []
  /-- How many pre-test-cases there have to be. -/
  count : Option Nat := none
  allowErrors : Bool := false
  /-- Expectations with the positions of their pre-test-cases. -/
  expectations : List (Nat × Expectation) := []

/-- Why a scenario fails. -/
inductive ScenarioFailure where
  | recognition (line : Nat) (error : RecognitionError)
  | generation (errors : List Diagnostic)
  | count (expected actual : Nat)
  | expectation (index : Nat) (mismatch : Mismatch)

/-- What is reported about a failure of the scenario with the given name. -/
def ScenarioFailure.message (name : String) : ScenarioFailure → String
  | recognition line e =>
    "[" ++ name ++ "] sentence " ++ toString line ++ " could not be recognized: " ++ e.message
  | generation errors =>
    "[" ++ name ++ "] generation reported errors:\n  " ++
      "\n  ".intercalate (errors.map (·.message))
  | count expected actual =>
    "[" ++ name ++ "] expected " ++ toString expected ++ " pre-test-cases, got " ++
      toString actual
  | expectation index m =>
    "[" ++ name ++ "] pre-test-case " ++ toString index ++ ": " ++ m.message

/-- What a scenario produced. -/
structure Outcome where
  cases : List PreTestCase
  session : Session

namespace Scenario

variable (s : Scenario)

/-- The seed of scenarios that do not set one. -/
def defaultSeed : Seed := ⟨Settings.sharedSeed⟩

/-- Recognizes sentences, the first of which stands on the given line. -/
def recognizeFrom : Nat → List ScenarioSentence → Except ScenarioFailure (List Step)
  | _, [] => .ok []
  | line, x :: xs =>
    let location : Location := { file := s.documents.head?.map (·.path), line, column := 1 }
    match recognize s.dictionary x.text location with
    | .error e => .error (.recognition line e)
    | .ok step =>
      match recognizeFrom (line + 1) xs with
      | .error e => .error e
      | .ok steps => .ok ({ step with isExternal := x.isExternal } :: steps)

def steps : Except ScenarioFailure (List Step) := s.recognizeFrom 1 s.sentences

def scope : Scope := ⟨⟨s.documents⟩, s.documents.head?⟩

def assembler : Assembler where
  dictionary := s.dictionary
  settings :=
    if s.strategies.isEmpty then s.settings else { s.settings with strategies := s.strategies }
  seed := s.seed

/-- Checks expectations in order. -/
def checkAll (cases : List PreTestCase) : List (Nat × Expectation) → Except ScenarioFailure Unit
  | [] => .ok ()
  | (i, x) :: rest =>
    match cases[i]? with
    | none => .error (.expectation i (.absent cases.length))
    | some p =>
      match x.check p with
      | .error m => .error (.expectation i m)
      | .ok _ => checkAll cases rest

def checkCount (cases : List PreTestCase) : Except ScenarioFailure Unit :=
  match s.count with
  | some n => if cases.length = n then .ok () else .error (.count n cases.length)
  | none => .ok ()

/-- Runs the scenario: recognition, generation, and the expectations. -/
def run : Except ScenarioFailure Outcome := do
  let steps ← s.steps
  let (cases, session) := s.assembler.generate s.scope steps s.assembler.planners {}
  if session.hasErrors && !s.allowErrors then .error (.generation session.errors)
  s.checkCount cases
  checkAll cases s.expectations
  return ⟨cases, session⟩

end Scenario

end TestDesign
