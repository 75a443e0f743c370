import TestDesign.Pattern.Format
import TestDesign.Range.Values
import TestDesign.Value.Conversion

/-!
# TestDesign.Data.Constraints

What an element demands of its data, read from its properties: type, bounds, format, accepted
values, and whether it is required or computed.

Constraints of an element are consistent: only a string has a format, which is well formed, and no
minimum lies above its maximum. Of several faults the first one counts, in the order of `ofElement`
and then of `check`.
-/

namespace TestDesign

/-- The demands on the data of an element. -/
structure Constraints where
  dataType : DataType := .string
  /-- The declared value, if it is not a list. -/
  value : Option Value := none
  /-- The accepted values; empty when they are not listed. -/
  accepted : List Value := []
  minValue : Option Value := none
  maxValue : Option Value := none
  minLength : Option UInt64 := none
  maxLength : Option UInt64 := none
  format : Option String := none
  isRequired : Bool := false
  isComputed : Bool := false
deriving BEq

namespace Constraints

def hasValueBounds (c : Constraints) : Bool := c.minValue.isSome || c.maxValue.isSome

def hasLengthBounds (c : Constraints) : Bool := c.minLength.isSome || c.maxLength.isSome

def hasAccepted (c : Constraints) : Bool := !c.accepted.isEmpty

/-- The range of the values; none for a type without order. -/
def valueRange (c : Constraints) (delta : Option Float) : Except DataError (Option ValueRange) :=
  ValueRange.of c.dataType c.minValue c.maxValue delta

/-- The range of the lengths. -/
def lengthRange (c : Constraints) : Except DataError (StepRange StepDomain.lengths) :=
  StepRange.of .lengths c.minLength c.maxLength

/-! ## Consistency -/

def checkFormat (c : Constraints) : Except DataError Unit :=
  match c.format with
  | none => .ok ()
  | some pattern =>
    if c.dataType ≠ .string then .error (.incompatibleFormat c.dataType)
    else if (Pattern.Format.of? pattern).isNone then .error (.invalidFormat pattern)
    else .ok ()

def checkLengths (c : Constraints) : Except DataError Unit :=
  match c.minLength, c.maxLength with
  | some lo, some hi =>
    if hi < lo then .error (.invalidLengthRange lo.toNat hi.toNat) else .ok ()
  | _, _ => .ok ()

/-- Whether the demands are consistent with each other. -/
def check (c : Constraints) : Except DataError Unit := do
  c.checkFormat
  c.checkLengths
  let _ ← c.valueRange none

/-! ## Reading -/

/-- The type of declared values without a declared type: that of the first one, or real when the
first one is an integer but some other is not. Without values it is string. -/
def inferType (declared : List Value) : DataType :=
  match declared.head?.map Value.dataType with
  | some .integer =>
    if declared.any fun v => match v with | .real _ => true | _ => false then .real else .integer
  | some t => t
  | none => .string

/-- A declared value in the type of its element. -/
def typed (type : DataType) (kind : PropertyKind) (v : Value) : Except DataError Value :=
  match v.convert? type with
  | some v => .ok v
  | none => .error (.ofProperty kind v)

def typed? (type : DataType) (kind : PropertyKind) : Option Value → Except DataError (Option Value)
  | none => .ok none
  | some v => (typed type kind v).map some

def typedAll (type : DataType) (kind : PropertyKind) : List Value → Except DataError (List Value)
  | [] => .ok []
  | v :: vs => do
    let v ← typed type kind v
    let vs ← typedAll type kind vs
    return v :: vs

def lengthOf? (kind : PropertyKind) : Option Value → Except DataError (Option UInt64)
  | none => .ok none
  | some v =>
    match v.length? with
    | some n => .ok (some n)
    | none => .error (.ofProperty kind v)

/-- A property that is no truth value counts as set. -/
def flag : Option Value → Bool
  | some v => v.asBool.getD true
  | none => false

/-- The declared type, or that of the declared values. -/
def typeOf (e : Element) (declared : List Value) : Except DataError DataType :=
  match e.declared? .dataType with
  | none => .ok (inferType declared)
  | some v =>
    match DataType.ofText? v.typed with
    | some t => .ok t
    | none => .error (.ofProperty .dataType v)

/-- The declared value, if it is not a list. -/
def singleOf (e : Element) : Option Value :=
  match e.declared? .value with
  | some (.list _) => none
  | v => v

/-- The items of the declared value, if it is a list. -/
def itemsOf (e : Element) : List Value :=
  match e.declared? .value with
  | some (.list items) => items
  | _ => []

/-- The properties of an element, read but not checked. -/
def read (e : Element) : Except DataError Constraints := do
  let value := singleOf e
  let items := itemsOf e
  let min := e.declared? .minValue
  let max := e.declared? .maxValue
  let type ← typeOf e ([value, items.head?, min, max].filterMap id)
  return {
    dataType := type
    value := ← typed? type .value value
    accepted := ← typedAll type .value items
    minValue := ← typed? type .minValue min
    maxValue := ← typed? type .maxValue max
    minLength := ← lengthOf? .minLength (e.declared? .minLength)
    maxLength := ← lengthOf? .maxLength (e.declared? .maxLength)
    format := (e.declared? .format).map Value.typed
    isRequired := flag (e.declared? .required)
    isComputed := flag (e.declared? .computed) }

/-- The constraints of an element. -/
def ofElement (e : Element) : Except DataError Constraints := do
  let c ← read e
  c.check
  return c

end Constraints

end TestDesign
