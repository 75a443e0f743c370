import TestDesign.Value.Basic

/-!
# TestDesign.Value.Conversion

Values of a required type. A value that has no such form by itself is read from its text, blanks
at its ends aside; every value has a text and so is a string.
-/

namespace TestDesign.Value

open Calendar

/-- The truth value that a text spells. -/
def boolOfText? (s : String) : Option Bool :=
  if s = "true" then some true else if s = "false" then some false else none

/-- The text of a value, as it is read. -/
def legible (v : Value) : String := Text.trim v.typed

/-- The value as one of the given type. -/
def convert? (v : Value) : DataType → Option Value
  | .string => some (text v.typed)
  | .integer =>
    match v.asInt with
    | some n => some (int n)
    | none => (Decimal.integerWithin? minInt maxInt v.legible).map fun n => int (Int64.ofInt n)
  | .real => (v.asReal.or (Decimal.real? v.legible)).map real
  | .boolean => (v.asBool.or (boolOfText? v.legible)).map bool
  | .date => (v.asDate.or (Date.ofText? v.legible)).map date
  | .time => (v.asTime.or (Time.ofText? v.legible)).map time
  | .dateTime => (v.asDateTime.or (Moment.ofText? v.legible)).map dateTime

/-- The value as a length: an integer that is not negative. -/
def length? (v : Value) : Option UInt64 :=
  match v.convert? .integer with
  | some (int n) => if 0 ≤ n.toInt then some (UInt64.ofNat n.toInt.toNat) else none
  | _ => none

end TestDesign.Value
