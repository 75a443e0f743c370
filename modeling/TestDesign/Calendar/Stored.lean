import TestDesign.Calendar.Text

/-!
# TestDesign.Calendar.Stored

Dates, times and moments as documents store them: like their other texts, but with the fraction of
a second in groups of three digits and a `T` between date and time. Blanks may stand around the
marks when they are read, and any number of digits may follow the point.
-/

namespace TestDesign.Calendar

open TestDesign.Decimal TestDesign.Text

/-- The fraction of a second, in the fewest groups of three digits. -/
def fractionText (nano : Nat) : String :=
  if nano = 0 then ""
  else if nano % 1000000 = 0 then "." ++ padded 3 (nano / 1000000)
  else if nano % 1000 = 0 then "." ++ padded 6 (nano / 1000)
  else "." ++ padded 9 nano

def Time.stored (t : Time) : String := t.text ++ fractionText (t.nano % 1000000000)

def Moment.stored (m : Moment) : String := m.date.text ++ "T" ++ m.time.stored

/-- Nanoseconds after a point; nothing stands for none. Digits after the ninth do not count. -/
def nanosField : Field Nat := fun cs =>
  match cs with
  | '.' :: cs =>
    let ds := cs.takeWhile isDigit
    if ds.isEmpty then none
    else
      let nine := ds.take 9
      some (ofDigits nine * tenTo (9 - nine.length), cs.dropWhile isDigit)
  | cs => some (0, cs)

/-- Hours and minutes. -/
def hourMinute : Field (Nat × Nat) := fun cs => do
  let (h, cs) ← number 2 0 23 cs
  let (_, cs) ← blanks cs
  let (_, cs) ← mark ':' cs
  let (m, cs) ← number 2 0 59 cs
  return ((h, m), cs)

/-- Seconds and nanoseconds, after a colon. -/
def secondNano : Field (Nat × Nat) := fun cs => do
  let (_, cs) ← blanks cs
  let (_, cs) ← mark ':' cs
  let (s, cs) ← number 2 0 60 cs
  let (n, cs) ← nanosField cs
  let (_, cs) ← blanks cs
  return ((s, n), cs)

/-- A stored time; the seconds may be missing. -/
def Time.ofStored? : String → Option Time :=
  wholly fun cs => do
    let ((h, m), cs) ← hourMinute cs
    let ((s, n), cs) := (secondNano cs).getD ((0, 0), trimStart cs)
    let t ← timeOf h m s n
    return (t, cs)

def Date.ofStored? : String → Option Date := wholly (dateField true)

def Moment.ofStored? : String → Option Moment :=
  wholly fun cs => do
    let (d, cs) ← dateField true cs
    let (_, cs) ← mark 'T' cs
    let ((h, m), cs) ← hourMinute cs
    let ((s, n), cs) ← secondNano cs
    let t ← timeOf h m s n
    return (⟨d, t⟩, cs)

end TestDesign.Calendar
