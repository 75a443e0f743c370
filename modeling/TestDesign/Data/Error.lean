import TestDesign.Data.Case
import TestDesign.Document.Element

/-!
# TestDesign.Data.Error

What can be wrong with the data of an element. Configuration errors come from what the element
declares; the others say that a case has no value.
-/

namespace TestDesign

/-- Why there is no value. -/
inductive DataError where
  | invalidRange (min max : String)
  | invalidLengthRange (min max : Nat)
  /-- A pattern that is refused, with the words of the library that refuses it where they are
  known. -/
  | invalidFormat (pattern : String) (reason : Option String := none)
  | incompatibleFormat (type : DataType)
  | invalidValue (property value : String)
  | incompatible (c : DataCase) (type : DataType)
  | noInvalidValue (c : DataCase) (tries : Nat)
  | missingValue (c : DataCase)
deriving DecidableEq

namespace DataError

def message : DataError → String
  | invalidRange min max =>
    "Invalid range: minimum value " ++ min ++ " is greater than maximum value " ++ max
  | invalidLengthRange min max =>
    "Invalid length range: minimum length " ++ toString min ++ " is greater than maximum length " ++
      toString max
  | invalidFormat pattern reason =>
    "Invalid format '" ++ pattern ++ "'" ++ (reason.map (": " ++ ·)).getD ""
  | incompatibleFormat type => "A format cannot be declared for data type " ++ type.name
  | invalidValue property value => "Invalid value for " ++ property ++ ": " ++ value
  | incompatible c type =>
    "Data test case " ++ c.id ++ " is incompatible with data type " ++ type.name
  | noInvalidValue c tries =>
    "Could not produce a value for " ++ c.id ++ " after " ++ toString tries ++ " tries"
  | missingValue c => "Data test case " ++ c.id ++ " requires a declared value"

/-- Whether the element declares something inconsistent. -/
def isConfiguration : DataError → Bool
  | invalidRange .. | invalidLengthRange .. | invalidFormat .. | incompatibleFormat .. |
    invalidValue .. => true
  | incompatible .. | noInvalidValue .. | missingValue .. => false

/-- The value of a property does not suit the element. -/
def ofProperty (kind : PropertyKind) (v : Value) : DataError := invalidValue kind.label v.display

end DataError

end TestDesign
