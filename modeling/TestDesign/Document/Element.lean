import TestDesign.Document.Step
import TestDesign.Text.Words
import TestDesign.Value.Basic

/-!
# TestDesign.Document.Element

Elements of a user interface with the properties that they declare, and constants.
-/

namespace TestDesign

/-- What an element can declare. -/
inductive PropertyKind where
  /-- How the element is found in the user interface. -/
  | id
  /-- The value, or the list of accepted values. -/
  | value
  | minLength
  | maxLength
  | minValue
  | maxValue
  /-- A pattern for the whole value. -/
  | format
  | required
  | dataType
  /-- The value is computed elsewhere. -/
  | computed
deriving DecidableEq, Inhabited

namespace PropertyKind

def all : List PropertyKind :=
  [id, value, minLength, maxLength, minValue, maxValue, format, required, dataType, computed]

/-- The key of the property in a stored document. -/
def name : PropertyKind → String
  | id => "id"
  | value => "value"
  | minLength => "min_length"
  | maxLength => "max_length"
  | minValue => "min_value"
  | maxValue => "max_value"
  | format => "format"
  | required => "required"
  | dataType => "data_type"
  | computed => "computed"

def ofName? (s : String) : Option PropertyKind := all.find? (·.name = s)

/-- The property in messages and sentences. -/
def label : PropertyKind → String
  | id => "id"
  | value => "value"
  | minLength => "minlength"
  | maxLength => "maxlength"
  | minValue => "minvalue"
  | maxValue => "maxvalue"
  | format => "format"
  | required => "required"
  | dataType => "datatype"
  | computed => "computed"

end PropertyKind

/-- A declared property, and the steps that describe what happens when it is violated. -/
structure Property where
  kind : PropertyKind
  value : Value
  otherwiseSteps : List Step := []
  location : Location := {}
deriving BEq, Inhabited

/-- An element of the user interface. -/
structure Element where
  name : String
  /-- The feature that declares it; none for an element of a whole document. -/
  feature : Option String := none
  properties : List Property := []
  location : Location := {}
deriving BEq, Inhabited

namespace Element

/-- The name of the element in the whole specification. -/
def variableName (e : Element) : String :=
  match e.feature with
  | some feature => feature ++ ":" ++ e.name
  | none => e.name

/-- The first property of a kind. -/
def property? (e : Element) (kind : PropertyKind) : Option Property :=
  e.properties.find? (·.kind = kind)

def declared? (e : Element) (kind : PropertyKind) : Option Value := (e.property? kind).map (·.value)

def hasProperty (e : Element) (kind : PropertyKind) : Bool := (e.property? kind).isSome

/-- What stands for the element in the user interface: its id, or its name in a case style. -/
def literal (e : Element) (style : Text.CaseStyle) : String :=
  match e.declared? .id with
  | some id => id.typed
  | none => style.convert e.name

end Element

/-- A named value. -/
structure Constant where
  name : String
  value : Value
deriving BEq, Inhabited

end TestDesign
