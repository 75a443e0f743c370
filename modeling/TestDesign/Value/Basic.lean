import TestDesign.Calendar.Text
import TestDesign.Decimal.Shortest
import TestDesign.Value.Kind

/-!
# TestDesign.Value.Basic

Values: what a step types into an element, what a constant holds and what a property declares.

A value has two texts. `typed` is what is typed into an element, without quotes; `display` quotes
strings, dates and times, as they stand in a sentence.
-/

namespace TestDesign

open Calendar

/-- A value. Lists are sets of accepted values. -/
inductive Value where
  | bool (b : Bool)
  | int (n : Int64)
  | real (x : Float)
  | text (s : String)
  | date (d : Date)
  | time (t : Time)
  | dateTime (m : Moment)
  | list (items : List Value)
deriving Inhabited

namespace Value

mutual

/-- Equality of values; reals are compared as numbers, so the one that is no number differs from
itself. -/
def beq : Value → Value → Bool
  | bool a, bool b => a == b
  | int m, int n => m == n
  | real x, real y => x == y
  | text s, text t => s == t
  | date d, date e => d == e
  | time t, time u => t == u
  | dateTime m, dateTime n => m == n
  | list xs, list ys => beqItems xs ys
  | _, _ => false

def beqItems : List Value → List Value → Bool
  | [], [] => true
  | x :: xs, y :: ys => beq x y && beqItems xs ys
  | _, _ => false

end

instance : BEq Value := ⟨beq⟩

def minInt : Int := -9223372036854775808

def maxInt : Int := 9223372036854775807

/-- The nearest integer of 64 bits. -/
def clampInt (n : Int) : Int64 := Int64.ofInt (max minInt (min n maxInt))

def asBool : Value → Option Bool
  | bool b => some b
  | _ => none

/-- An integer, or a real without a fractional part. -/
def asInt : Value → Option Int64
  | int n => some n
  | real x => (Decimal.integral? x).map clampInt
  | _ => none

def asReal : Value → Option Float
  | real x => some x
  | int n => some (Decimal.ofInt n.toInt)
  | _ => none

def asText : Value → Option String
  | text s => some s
  | _ => none

def asDate : Value → Option Date
  | date d => some d
  | dateTime m => some m.date
  | _ => none

def asTime : Value → Option Time
  | time t => some t
  | dateTime m => some m.time
  | _ => none

def asDateTime : Value → Option Moment
  | dateTime m => some m
  | _ => none

def asList : Value → Option (List Value)
  | list items => some items
  | _ => none

def isText : Value → Bool
  | text _ => true
  | _ => false

def isNumber : Value → Bool
  | int _ | real _ => true
  | _ => false

def isList : Value → Bool
  | list _ => true
  | _ => false

/-- The type of a value; a list has the type of its first item. -/
def dataType : Value → DataType
  | bool _ => .boolean
  | int _ => .integer
  | real _ => .real
  | text _ => .string
  | date _ => .date
  | time _ => .time
  | dateTime _ => .dateTime
  | list [] => .string
  | list (item :: _) => item.dataType

def boolText (b : Bool) : String := if b then "true" else "false"

def quoted (s : String) : String := "\"" ++ s ++ "\""

mutual

/-- The value in a sentence; quotes inside a string stand as they are. -/
def display : Value → String
  | bool b => boolText b
  | int n => toString n.toInt
  | real x => Decimal.text x
  | text s => quoted s
  | date d => quoted d.text
  | time t => quoted t.text
  | dateTime m => quoted m.text
  | list items => "[" ++ displayItems items ++ "]"

def displayItems : List Value → String
  | [] => ""
  | [item] => item.display
  | item :: items => item.display ++ ", " ++ displayItems items

end

/-- The value as it is typed into an element. -/
def typed : Value → String
  | text s => s
  | date d => d.text
  | time t => t.text
  | dateTime m => m.text
  | v => v.display

/-- The value of a literal in a sentence: a number if it reads as one, a truth value, or the
text itself. -/
def ofLiteral (s : String) : Value :=
  match Decimal.integerWithin? minInt maxInt s with
  | some n => int (Int64.ofInt n)
  | none =>
    match (Decimal.real? s).filter Decimal.isFinite with
    | some x => real x
    | none =>
      if s = "true" then bool true
      else if s = "false" then bool false
      else text s

end Value

end TestDesign
