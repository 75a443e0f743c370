import TestDesign.Calendar.Stored
import TestDesign.Document.Lookup
import TestDesign.Json.Shape
import TestDesign.Json.Tree

/-!
# TestDesign.Json.Documents

Values, steps, elements and documents as JSON. Fields with a default may be missing. What
recognition finds in a step is read but not written, because it can be found again.
-/

namespace TestDesign.Json

open Calendar

/-! ## Values -/

/-- Lists may hold lists; the first argument bounds their nesting, as `maxDepth` does. -/
def valueWithin : Nat → Reader Value
  | 0 => fun _ _ => .error .malformed
  | k + 1 => Reader.choice fun
    | "Bool" => some (.holding (Reader.bool.map .bool))
    | "Int" => some (.holding (Reader.integer.map fun n => .int (Int64.ofInt n)))
    | "Float" => some (.holding (Reader.real.map .real))
    | "String" => some (.holding (Reader.text.map .text))
    | "Date" => some (.holding (Reader.text.check fun s => (Date.ofStored? s).map .date))
    | "Time" => some (.holding (Reader.text.check fun s => (Time.ofStored? s).map .time))
    | "DateTime" => some (.holding (Reader.text.check fun s => (Moment.ofStored? s).map .dateTime))
    | "List" => some (.holding ((Reader.list (valueWithin k)).map .list))
    | _ => none

def valueReader : Reader Value := valueWithin maxDepth

mutual

def ofValue : Value → Tree
  | .bool b => .object [("Bool", .bool b)]
  | .int n => .object [("Int", .int n.toInt)]
  | .real x => .object [("Float", .real x)]
  | .text s => .object [("String", .text s)]
  | .date d => .object [("Date", .text d.text)]
  | .time t => .object [("Time", .text t.stored)]
  | .dateTime m => .object [("DateTime", .text m.stored)]
  | .list items => .object [("List", .list (ofValues items))]

def ofValues : List Value → List Tree
  | [] => []
  | v :: vs => ofValue v :: ofValues vs

end

def dataTypeReader : Reader DataType :=
  Reader.named fun s => DataType.all.find? (·.name = s)

def ofDataType (t : DataType) : Tree := .text t.name

def caseStyleReader : Reader Text.CaseStyle := Reader.named Text.CaseStyle.ofName?

def ofCaseStyle (s : Text.CaseStyle) : Tree := .text s.name

/-! ## Steps -/

/-- A member for a value that there is, and none otherwise. -/
def present {α : Type} (name : String) (f : α → Tree) : Option α → List (String × Tree)
  | some x => [(name, f x)]
  | none => []

/-- The value, or null. -/
def orNull {α : Type} (f : α → Tree) : Option α → Tree
  | some x => f x
  | none => .null

def locationReader : Reader Location :=
  .record [
    .of "file_path" true (.optional .text) fun x (l : Location) => { l with file := x },
    .of "line" false .natural fun x l => { l with line := x },
    .of "column" false .natural fun x l => { l with column := x }] {}

def ofLocation (l : Location) : Tree :=
  .object (present "file_path" .text l.file ++ [("line", .int l.line), ("column", .int l.column)])

def entityReader : Reader Entity :=
  .record [
    .of "kind" false (.named EntityKind.ofName?) fun x (e : Entity) => { e with kind := x },
    .of "value" false .text fun x e => { e with value := x },
    .of "text" false .text fun x e => { e with text := x },
    .of "position" false .natural fun x e => { e with position := x },
    .of "property" true (.optional .text) fun x e => { e with property := x }] default

def ofEntity (e : Entity) : Tree :=
  .object ([("kind", .text e.kind.name), ("value", .text e.value), ("text", .text e.text),
    ("position", .int e.position)] ++ present "property" .text e.property)

def stepReader : Reader Step :=
  .record [
    .of "content" false .text fun x (s : Step) => { s with content := x },
    .of "node_type" false (.named StepKind.ofName?) fun x s => { s with kind := x },
    .of "location" false locationReader fun x s => { s with location := x },
    .of "entities" true (.list entityReader) fun x s => { s with entities := x },
    .of "external" true .bool fun x s => { s with isExternal := x },
    .of "comment" true (.optional .text) fun x s => { s with comment := x }]
    { content := "", kind := .givenStep, location := {} }

def ofStep (s : Step) : Tree :=
  .object ([("content", .text s.content), ("node_type", .text s.kind.name),
    ("location", ofLocation s.location)] ++ present "comment" .text s.comment)

/-! ## Elements -/

def propertyReader : Reader Property :=
  .record [
    .of "kind" false (.named PropertyKind.ofName?) fun x (p : Property) => { p with kind := x },
    .of "value" false valueReader fun x p => { p with value := x },
    .of "otherwise" true (.list stepReader) fun x p => { p with otherwiseSteps := x },
    .of "location" true locationReader fun x p => { p with location := x }]
    { kind := .id, value := .bool false }

def ofProperty (p : Property) : Tree :=
  .object [("kind", .text p.kind.name), ("value", ofValue p.value),
    ("otherwise", .list (p.otherwiseSteps.map ofStep)), ("location", ofLocation p.location)]

def elementReader : Reader Element :=
  .record [
    .of "name" false .text fun x (e : Element) => { e with name := x },
    .of "feature" true (.optional .text) fun x e => { e with feature := x },
    .of "properties" true (.list propertyReader) fun x e => { e with properties := x },
    .of "location" true locationReader fun x e => { e with location := x }] { name := "" }

def ofElement (e : Element) : Tree :=
  .object [("name", .text e.name), ("feature", orNull .text e.feature),
    ("properties", .list (e.properties.map ofProperty)), ("location", ofLocation e.location)]

def constantReader : Reader Constant :=
  .record [
    .of "name" false .text fun x (c : Constant) => { c with name := x },
    .of "value" false valueReader fun x c => { c with value := x }]
    { name := "", value := .bool false }

def ofConstant (c : Constant) : Tree :=
  .object [("name", .text c.name), ("value", ofValue c.value)]

/-! ## Documents -/

def featureReader : Reader Feature :=
  .record [
    .of "name" false .text fun x (f : Feature) => { f with name := x },
    .of "ui_elements" true (.list elementReader) fun x f => { f with elements := x }]
    { name := "" }

def ofFeature (f : Feature) : Tree :=
  .object [("name", .text f.name), ("ui_elements", .list (f.elements.map ofElement))]

def documentReader : Reader Document :=
  .record [
    .of "path" false .text fun x (d : Document) => { d with path := x },
    .of "feature" true (.optional featureReader) fun x d => { d with feature := x },
    .of "ui_elements" true (.list elementReader) fun x d => { d with elements := x },
    .of "constants" true (.list constantReader) fun x d => { d with constants := x }]
    { path := "" }

def ofDocument (d : Document) : Tree :=
  .object [("path", .text d.path), ("feature", orNull ofFeature d.feature),
    ("ui_elements", .list (d.elements.map ofElement)),
    ("constants", .list (d.constants.map ofConstant))]

def specReader : Reader Spec :=
  .record [
    .of "documents" false (.list documentReader) fun x (s : Spec) => { s with documents := x }]
    { documents := [] }

def ofSpec (s : Spec) : Tree := .object [("documents", .list (s.documents.map ofDocument))]

end TestDesign.Json
