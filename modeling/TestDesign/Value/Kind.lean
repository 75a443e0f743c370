import TestDesign.Text.CaseMap
import TestDesign.Text.Blank

/-!
# TestDesign.Value.Kind

The data types of user interface elements, and the spellings under which they are declared.
-/

namespace TestDesign

/-- Data type of an element. -/
inductive DataType where
  | string
  | integer
  | real
  | boolean
  | date
  | time
  | dateTime
deriving DecidableEq, Inhabited

namespace DataType

def all : List DataType := [string, integer, real, boolean, date, time, dateTime]

def name : DataType → String
  | string => "string"
  | integer => "integer"
  | real => "real"
  | boolean => "boolean"
  | date => "date"
  | time => "time"
  | dateTime => "datetime"

/-- Whether the values have an order with boundaries. -/
def isOrdered : DataType → Bool
  | string | boolean => false
  | integer | real | date | time | dateTime => true

/-- All spellings, small. -/
def spellings : List (String × DataType) :=
  [("string", string), ("text", string), ("integer", integer), ("int", integer),
    ("long", integer), ("real", real), ("double", real), ("float", real), ("number", real),
    ("boolean", boolean), ("bool", boolean), ("date", date), ("time", time),
    ("datetime", dateTime), ("date and time", dateTime)]

/-- A declared type, as it is compared with the spellings. -/
def normalize (s : String) : String := Text.lower (Text.trim s)

/-- The type with a spelling, blanks around it and its case aside. -/
def ofText? (s : String) : Option DataType := spellings.lookup (normalize s)

/-- What is reported for a text that spells no type. -/
def unknownMessage (s : String) : String := "Unknown data type: " ++ normalize s

end DataType

end TestDesign
