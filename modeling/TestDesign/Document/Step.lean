import TestDesign.Text.Offset

/-!
# TestDesign.Document.Step

Steps of scenarios, where they stand, and the entities found in their sentences.

An entity has the text it was found as and the byte position of that text in the sentence of its
step. The entities of a step are kept in the order of their positions.
-/

namespace TestDesign

/-- A place in a document. Lines and columns are words of 64 bits, here without that bound: the only
lines that are computed are those of the steps for the targets of a fill step, and they are words
when the last one of them is. -/
structure Location where
  file : Option String := none
  line : Nat := 0
  column : Nat := 0
deriving DecidableEq, Inhabited

def Location.text (l : Location) : String :=
  let place := "(" ++ toString l.line ++ "," ++ toString l.column ++ ")"
  match l.file with
  | some file => file ++ " " ++ place
  | none => place

/-- Kind of a step, told by the keyword that it starts with. -/
inductive StepKind where
  | givenStep
  | whenStep
  | thenStep
  | andStep
  | otherwiseStep
deriving DecidableEq, Inhabited

namespace StepKind

def all : List StepKind := [givenStep, whenStep, thenStep, andStep, otherwiseStep]

def name : StepKind → String
  | givenStep => "given"
  | whenStep => "when"
  | thenStep => "then"
  | andStep => "and"
  | otherwiseStep => "otherwise"

def ofName? (s : String) : Option StepKind := all.find? (·.name = s)

end StepKind

/-- What an entity refers to. -/
inductive EntityKind where
  /-- An action such as "fill". -/
  | action
  /-- The name of an element in the user interface, `<userName>`. -/
  | literal
  /-- An element of the specification, `{User Name}`. -/
  | element
  /-- A property of an element, `{User Name|value}`. -/
  | property
  /-- A constant, `[pi]`. -/
  | constant
  /-- A quoted value. -/
  | value
  | number
  /-- A state of the application, `~logged in~`. -/
  | state
deriving DecidableEq, Inhabited

namespace EntityKind

def all : List EntityKind :=
  [action, literal, element, property, constant, value, number, state]

def name : EntityKind → String
  | action => "ui_action"
  | literal => "ui_literal"
  | element => "ui_element"
  | property => "ui_property_ref"
  | constant => "constant"
  | value => "value"
  | number => "number"
  | state => "state"

def ofName? (s : String) : Option EntityKind := all.find? (·.name = s)

/-- Whether the entity gives the value that a step fills with. -/
def isValue : EntityKind → Bool
  | value | number | constant | property => true
  | action | literal | element | state => false

/-- Whether a fill step can fill the entity. -/
def isTarget : EntityKind → Bool
  | literal | element => true
  | action | property | constant | value | number | state => false

end EntityKind

/-- A part of a sentence that has a meaning of its own. -/
structure Entity where
  kind : EntityKind
  /-- The name between the delimiters, the value without quotes, or the action. -/
  value : String
  /-- The entity as it stands in the sentence. -/
  text : String
  /-- Byte position of the text. -/
  position : Nat
  /-- The property referred to. -/
  property : Option String := none
deriving DecidableEq, Inhabited

namespace Entity

/-- The byte position after the entity. -/
def stop (e : Entity) : Nat := e.position + e.text.utf8ByteSize

/-- Entities stand in a sentence where they say, the first one from the byte `start` on and each of
the others after the one before it. The first one that does not is refused. -/
def check (sentence : List Char) (start : Nat) : List Entity → Except Entity Unit
  | [] => .ok ()
  | e :: es =>
    let found := Text.slice? sentence e.position e.text.utf8ByteSize
    if e.position < start || found != some e.text.toList then .error e
    else check sentence e.stop es

end Entity

/-- A step of a scenario, or of what happens when a property is violated. -/
structure Step where
  content : String
  kind : StepKind
  location : Location
  entities : List Entity := []
  /-- Whether the step comes from another scenario that this one builds on. -/
  isExternal : Bool := false
  comment : Option String := none
deriving DecidableEq, Inhabited

namespace Step

/-- The value of the action that fills elements. -/
def fillName : String := "fill"

/-- The step with the given entities, in the order of their positions. -/
def withEntities (s : Step) (es : List Entity) : Step :=
  { s with entities := es.mergeSort fun a b => a.position ≤ b.position }

def entitiesOf (s : Step) (kind : EntityKind) : List Entity :=
  s.entities.filter (·.kind = kind)

def hasEntity (s : Step) (kind : EntityKind) : Bool := s.entities.any (·.kind = kind)

/-- The fill action of the step, if it has one. -/
def fillAction? (s : Step) : Option Entity :=
  (s.entitiesOf .action).find? (·.value = fillName)

def isFill (s : Step) : Bool := s.fillAction?.isSome

/-- Whether the step says itself which value to use. -/
def hasValue (s : Step) : Bool := s.entities.any (·.kind.isValue)

def checkEntities (s : Step) : Except Entity Unit := Entity.check s.content.toList 0 s.entities

/-- What the step can fill, in order. -/
def targets (s : Step) : List Entity := s.entities.filter (·.kind.isTarget)

/-- The step as a line of a test case. -/
def render (s : Step) : String :=
  match s.comment with
  | some comment => s.content ++ " # " ++ comment
  | none => s.content

end Step

end TestDesign
