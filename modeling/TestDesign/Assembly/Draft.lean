import TestDesign.Assembly.Settings
import TestDesign.Assembly.Survey
import TestDesign.Sentence.Rendering

/-!
# TestDesign.Assembly.Draft

The steps of one test case. A fill step without a value becomes one step for each of its targets,
each with a value of its own; any other step stays one step, in which references are replaced:
elements by their names in the user interface, constants and properties by their values.

A draft keeps what has been typed so far. What is drawn, typed and noted before a step fails stays
in the draft.
-/

namespace TestDesign

open TestDesign.Random

/-- What stays the same while a test case is assembled. -/
structure Brief where
  dictionary : Dictionary
  generator : Generator
  literalCase : Text.CaseStyle
  scope : Scope
  survey : Survey
  /-- The plan; none for an external step, which gets valid values. -/
  plan : Option Plan

/-- An element that got the value of the plan, and its name in the user interface. -/
structure FilledElement where
  var : String
  literal : String
deriving DecidableEq

/-- A test case under assembly. -/
structure Draft where
  stream : Stream
  /-- The values typed into elements, by their variables. -/
  values : Keyed Value := .empty
  /-- The elements with a value of the plan, in the order of their first filling. -/
  filled : List FilledElement := []
  /-- Everything reported so far, also before this test case. -/
  reports : Reports := {}

/-- A part of the assembly, which may fail. -/
abbrev Drafting := ExceptT Diagnostic (StateM Draft)

namespace Drafting

def draw {α : Type} (d : Draw α) : Drafting α := do
  let s ← get
  let (x, stream) := d.run s.stream
  set { s with stream }
  return x

def note (n : Note) : Drafting Unit := modify fun s => { s with reports := s.reports.push n }

def warn (d : Diagnostic) : Drafting Unit := note (.warning d)

/-- Remembers what has been typed into an element. -/
def remember (var : String) (v : Value) : Drafting Unit :=
  modify fun s => { s with values := s.values.insert var v }

/-- Remembers an element that got the value of the plan, once. -/
def markFilled (e : FilledElement) : Drafting Unit :=
  modify fun s =>
    if s.filled.any (·.var = e.var) then s else { s with filled := s.filled ++ [e] }

end Drafting

open Drafting

namespace Brief

variable (b : Brief)

/-- A comment on a value: what it stands for, whether it is valid, and which one it is. -/
def remark (reference : Option String) (isValid : Bool) (what : String) : String :=
  let verdict := if isValid then b.dictionary.validWord else b.dictionary.invalidWord
  match reference with
  | some reference => reference ++ ", " ++ verdict ++ ": " ++ what
  | none => verdict ++ ": " ++ what

/-- The name in the user interface of an element that is not found. -/
def guessedLiteral (var : String) : String := b.literalCase.convert (splitFeature var).2

/-! ## Filling -/

/-- What is typed into a target. -/
structure Filling where
  literal : String
  value : Value
  comment : String

/-- A random string. -/
def fillFreely (literal : String) (reference : Option String) : Drafting Filling := do
  let s ← draw b.generator.randomText
  return ⟨literal, .text s, b.remark reference true b.dictionary.randomWord⟩

/-- The value of a data case. -/
def valueFor (step : Step) (var : String) (case : DataCase) (c : Constraints) :
    Drafting Value := do
  match ← draw (b.generator.generate case c) with
  | .ok v => return v
  | .error e => throw (.contract var e (b.scope.locate step))

/-- The value of the planned case, or of a valid case where nothing is planned. -/
def fillElement (step : Step) (target : Entity) (e : Element) : Drafting Filling := do
  let var := e.variableName
  let literal := e.literal b.literalCase
  let filling ← match b.survey.constraints.get? var, b.plan.bind (·.case? var) with
    | some c, some planned => do
      let v ← b.valueFor step var planned.case c
      markFilled ⟨var, literal⟩
      let what := b.dictionary.caseName planned.case.id
      pure (⟨literal, v, b.remark (some target.text) (planned.verdict = .valid) what⟩ : Filling)
    | some c, none => do
      let case ← draw c.validCase
      let v ← b.valueFor step var case c
      pure ⟨literal, v, b.remark (some target.text) true (b.dictionary.caseName case.id)⟩
    | none, _ => b.fillFreely literal (some target.text)
  remember var filling.value
  return filling

/-- What is typed into a target of a fill step. -/
def fillTarget (step : Step) (target : Entity) : Drafting Filling :=
  if target.kind = .element then
    match b.scope.findElement? target.value with
    | some e => b.fillElement step target e
    | none => do
      warn (.unresolvedElement target.value (b.scope.locate step))
      b.fillFreely (b.guessedLiteral target.value) (some target.text)
  else
    b.fillFreely target.value none

/-- The sentence of a fill step. -/
def fillSentence (kind : StepKind) (action : Entity) (f : Filling) : String :=
  " ".intercalate [b.dictionary.keyword kind, b.dictionary.subject, action.text,
    literalReference f.literal, b.dictionary.connective, f.value.inSentence]

/-- One fill step for each target. The first one keeps the kind of the step, the others follow it
line by line. -/
def expandFill (step : Step) (action : Entity) : Nat → List Entity → Drafting (List Step)
  | _, [] => return []
  | i, target :: targets => do
    let kind := if i = 0 then step.kind else .andStep
    let f ← b.fillTarget step target
    let s : Step := {
      content := b.fillSentence kind action f, kind
      location := { step.location with line := step.location.line + i }
      isExternal := step.isExternal, comment := some f.comment }
    return s :: (← expandFill step action (i + 1) targets)

/-! ## Replacing -/

/-- What stands for an entity, and what that means for the step. -/
structure Replacement where
  text : String
  /-- The entity in the comment, if it is mentioned there. -/
  mention : Option String := none
  /-- The value that the entity gives. -/
  value : Option Value := none
  /-- The variable of the element that the entity names. -/
  target : Option String := none

/-- The value that is written where there is none. -/
def blankText : String := (Value.text "").inSentence

def replaceConstant (step : Step) (e : Entity) : Drafting Replacement :=
  match b.scope.findConstant? e.value with
  | some c => return { text := c.value.inSentence, mention := some e.text, value := some c.value }
  | none => do
    warn (.unresolvedConstant e.value (b.scope.locate step))
    return { text := blankText, mention := some e.text }

def replaceElement (step : Step) (e : Entity) : Drafting Replacement :=
  match b.scope.findElement? e.value with
  | some x => return {
      text := literalReference (x.literal b.literalCase), mention := some e.text
      target := some x.variableName }
  | none => do
    warn (.unresolvedElement e.value (b.scope.locate step))
    return { text := literalReference (b.guessedLiteral e.value), mention := some e.text }

/-- Whether an entity refers to the value of its element. -/
def refersToValue (e : Entity) : Bool :=
  e.property.any fun p => p.toList.map Char.toLower = PropertyKind.value.label.toList

/-- The constraints of an element, from the survey or from its own properties. -/
def constraintsOf (e : Element) : Except DataError Constraints :=
  match b.survey.constraints.get? e.variableName with
  | some c => .ok c
  | none => Constraints.ofElement e

/-- The value typed into an element, or a valid one that is then taken for it. -/
def replaceValue (step : Step) (x : Element) : Drafting Replacement := do
  let var := x.variableName
  match (← get).values.get? var with
  | some v => return { text := v.inSentence, value := some v }
  | none =>
    match b.constraintsOf x with
    | .error e => do
      note (.error (.configuration var e x.location))
      return { text := blankText }
    | .ok c => do
      let v ← b.valueFor step var .filled c
      remember var v
      return { text := v.inSentence, value := some v }

def replaceProperty (step : Step) (e : Entity) : Drafting Replacement :=
  if refersToValue e then
    match b.scope.findElement? e.value with
    | some x => b.replaceValue step x
    | none => do
      warn (.unresolvedElement e.value (b.scope.locate step))
      return { text := blankText }
  else do
    warn (.unsupportedProperty e.text (b.scope.locate step))
    return { text := e.text }

/-- The sentence of a step while its references are replaced. -/
structure Rewriting where
  /-- What comes out, as far as it is written. -/
  content : List Char := []
  /-- The byte of the sentence up to which it is written. -/
  last : Nat := 0
  comments : List String := []
  /-- The first value that an entity gives. -/
  explicit : Option Value := none
  /-- The variables of the elements that are named. -/
  targets : List String := []

namespace Rewriting

/-- Takes a value, if it is the first one. -/
def take (w : Rewriting) (v : Option Value) : Rewriting := { w with explicit := w.explicit.or v }

/-- Copies the sentence up to the entity and writes the replacement. -/
def write (w : Rewriting) (sentence : List Char) (e : Entity) (r : Replacement) : Rewriting where
  content := w.content ++ (Text.between? sentence w.last e.position).getD [] ++ r.text.toList
  last := e.stop
  comments := w.comments ++ r.mention.toList
  explicit := w.explicit.or r.value
  targets := w.targets ++ r.target.toList

/-- The sentence with the replacements, when there are no more entities. -/
def finish (w : Rewriting) (sentence : List Char) : List Char :=
  w.content ++ (Text.dropBytes? sentence w.last).getD []

end Rewriting

/-- Goes on to the next entity. What is no reference is copied later, with the text around it. -/
def rewriteEntity (step : Step) (w : Rewriting) (e : Entity) : Drafting Rewriting :=
  match e.kind with
  | .constant => return w.write step.content.toList e (← b.replaceConstant step e)
  | .element => return w.write step.content.toList e (← b.replaceElement step e)
  | .property => return w.write step.content.toList e (← b.replaceProperty step e)
  | .value => return w.take (some (.text e.value))
  | .number => return w.take (some (.ofLiteral e.value))
  | .action | .literal | .state => return w

def rewriteEntities (step : Step) : Rewriting → List Entity → Drafting Rewriting
  | w, [] => return w
  | w, e :: es => do rewriteEntities step (← b.rewriteEntity step w e) es

/-- The comment of a step with the mentions of its entities. -/
def joinComments : List String → Option String
  | [] => none
  | comments => some (" ".intercalate comments)

/-- Remembers a value for several elements. -/
def rememberAll (v : Value) : List String → Drafting Unit
  | [] => return ()
  | var :: vars => do
    remember var v
    rememberAll v vars

/-- The step with its references replaced. A fill step types the first value that it gives into
all elements that it names. -/
def resolve (step : Step) : Drafting Step := do
  let w ← b.rewriteEntities step { comments := step.comment.toList } step.entities
  if step.isFill then
    match w.explicit with
    | some v => rememberAll v w.targets
    | none => pure ()
  return {
    content := String.ofList (w.finish step.content.toList), kind := step.kind
    location := step.location, isExternal := step.isExternal, comment := joinComments w.comments }

/-! ## Steps -/

/-- Fails for a step with an entity that does not stand where it says. -/
def checkStep (step : Step) : Drafting Unit :=
  match step.checkEntities with
  | .ok () => return ()
  | .error e => throw (.malformedReference e.text (b.scope.locate step))

/-- The action and the targets of a fill step that leaves the value open. -/
def openFill? (step : Step) : Option (Entity × List Entity) :=
  match step.fillAction? with
  | some action =>
    if step.hasValue || step.targets.isEmpty then none else some (action, step.targets)
  | none => none

/-- The steps that a step becomes. -/
def steps (step : Step) : Drafting (List Step) := do
  b.checkStep step
  match openFill? step with
  | some (action, targets) => b.expandFill step action 0 targets
  | none => return [← b.resolve step]

/-- A step that says what happens on a violation, as a check after an element was filled. -/
def oracle (literal : String) (otherwise : Step) : Drafting Step := do
  b.checkStep otherwise
  let s ← b.resolve otherwise
  return { s with
    content := otherwiseAsThen s.content b.dictionary, kind := .thenStep
    comment := some (b.dictionary.fromWord ++ " " ++ literalReference literal) }

def oraclesOf (literal : String) : List Step → Drafting (List Step)
  | [] => return []
  | s :: ss => do
    let o ← b.oracle literal s
    return o :: (← oraclesOf literal ss)

/-- What happens when the value of an element is refused, if its planned case is invalid. -/
def violationSteps (var : String) : List Step :=
  match b.plan.bind (·.case? var) with
  | some planned => if planned.verdict = .invalid then planned.otherwiseSteps else []
  | none => []

def oraclesFor : List FilledElement → Drafting (List Step)
  | [] => return []
  | e :: es => do
    let os ← b.oraclesOf e.literal (b.violationSteps e.var)
    return os ++ (← oraclesFor es)

/-- The checks for the invalid values that were typed. -/
def oracles : Drafting (List Step) := do b.oraclesFor (← get).filled

end Brief

end TestDesign
