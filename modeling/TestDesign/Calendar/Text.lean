import TestDesign.Calendar.Time
import TestDesign.Decimal.Reading
import TestDesign.Text.Blank

/-!
# TestDesign.Calendar.Text

Dates, times and moments written and read. They are written as `2020-02-29`, `12:30:00` and both
with a space between them; years have at least four digits and a sign outside 0 to 9999, and a
leap second is written as second 60.

Reading is more liberal: a number may follow blanks and have fewer digits, and a year with a sign
may have any number of digits.
-/

namespace TestDesign.Calendar

open TestDesign.Decimal TestDesign.Text

/-- A number with at least `width` digits. -/
def padded (width n : Nat) : String :=
  let digits := toString n
  String.ofList (List.replicate (width - digits.length) '0') ++ digits

def yearText (year : Int) : String :=
  if 0 ≤ year ∧ year ≤ 9999 then padded 4 year.toNat
  else (if year < 0 then "-" else "+") ++ padded 4 year.natAbs

def Date.text (d : Date) : String :=
  yearText d.year ++ "-" ++ padded 2 d.month ++ "-" ++ padded 2 d.day

def Time.text (t : Time) : String :=
  padded 2 t.hour ++ ":" ++ padded 2 t.minute ++ ":" ++ padded 2 (t.second + t.nano / 1000000000)

def Moment.text (m : Moment) : String := m.date.text ++ " " ++ m.time.text

/-- What is read from the front of a text, and the rest of it. -/
abbrev Field (α : Type) := List Char → Option (α × List Char)

/-- One to `width` digits. -/
def digits (width : Nat) : Field Nat := fun cs =>
  let ds := (cs.take width).takeWhile isDigit
  if ds.isEmpty then none else some (ofDigits ds, cs.drop ds.length)

/-- A number of one to `width` digits with a value between bounds, after blanks. -/
def number (width lo hi : Nat) : Field Nat := fun cs =>
  match digits width (trimStart cs) with
  | some (n, rest) => if lo ≤ n ∧ n ≤ hi then some (n, rest) else none
  | none => none

/-- A year, after blanks: four digits at most, or a sign and any number of digits. -/
def year : Field Int := fun cs =>
  match trimStart cs with
  | '-' :: cs => (digits cs.length cs).map fun (n, rest) => (-n, rest)
  | '+' :: cs => (digits cs.length cs).map fun (n, rest) => (n, rest)
  | cs => (digits 4 cs).map fun (n, rest) => (n, rest)

def mark (c : Char) : Field Unit := fun cs =>
  match cs with
  | d :: rest => if c = d then some ((), rest) else none
  | [] => none

/-- Any number of blanks. -/
def blanks : Field Unit := fun cs => some ((), trimStart cs)

/-- Nothing but the given field. -/
def wholly {α : Type} (field : Field α) (s : String) : Option α :=
  match field s.toList with
  | some (x, []) => some x
  | _ => none

/-- Year, month and day with marks between them. With `loose`, blanks may precede the marks and
follow the day. -/
def dateField (loose : Bool) : Field Date := fun cs => do
  let gap : Field Unit := if loose then blanks else fun cs => some ((), cs)
  let (y, cs) ← year cs
  let (_, cs) ← gap cs
  let (_, cs) ← mark '-' cs
  let (m, cs) ← number 2 1 12 cs
  let (_, cs) ← gap cs
  let (_, cs) ← mark '-' cs
  let (d, cs) ← number 2 1 31 cs
  let (_, cs) ← gap cs
  let date ← Date.of? y m d
  return (date, cs)

/-- The time with a second that may be 60. -/
def timeOf (hour minute second nano : Nat) : Option Time :=
  if second = 60 then Time.of? hour minute 59 (1000000000 + nano)
  else Time.of? hour minute second nano

/-- Hours and minutes, and seconds if asked for. -/
def timeField (seconds : Bool) : Field Time := fun cs => do
  let (h, cs) ← number 2 0 23 cs
  let (_, cs) ← mark ':' cs
  let (m, cs) ← number 2 0 59 cs
  if seconds then
    let (_, cs) ← mark ':' cs
    let (s, cs) ← number 2 0 60 cs
    let t ← timeOf h m s 0
    return (t, cs)
  else
    let t ← timeOf h m 0 0
    return (t, cs)

/-- A date as it is written. -/
def Date.ofText? (s : String) : Option Date := wholly (dateField false) s

/-- A time as it is written; the seconds may be missing. -/
def Time.ofText? (s : String) : Option Time :=
  match wholly (timeField true) s with
  | some t => some t
  | none => wholly (timeField false) s

def momentField (separator : Field Unit) : Field Moment := fun cs => do
  let (d, cs) ← dateField false cs
  let (_, cs) ← separator cs
  let (t, cs) ← timeField true cs
  return (⟨d, t⟩, cs)

/-- A moment with blanks or a `T` between date and time. -/
def Moment.ofText? (s : String) : Option Moment :=
  match wholly (momentField blanks) s with
  | some m => some m
  | none => wholly (momentField (mark 'T')) s

end TestDesign.Calendar
