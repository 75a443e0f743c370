import TestDesign.Calendar.Date

/-!
# TestDesign.Calendar.Time

Times of day with nanoseconds, and moments: a date with a time. A leap second is second 59 with a
billion nanoseconds or more. A time has a number, its whole seconds since midnight; the number of
a moment counts the seconds since the first of January 1970.
-/

namespace TestDesign.Calendar

/-- A time of day. -/
structure Time where
  hour : Nat
  minute : Nat
  second : Nat
  nano : Nat
  valid : hour < 24 ∧ minute < 60 ∧ second < 60 ∧ nano < 2000000000 ∧
    (nano < 1000000000 ∨ second = 59)
deriving DecidableEq

namespace Time

def of? (hour minute second nano : Nat) : Option Time :=
  if h : hour < 24 ∧ minute < 60 ∧ second < 60 ∧ nano < 2000000000 ∧
      (nano < 1000000000 ∨ second = 59) then
    some ⟨hour, minute, second, nano, h⟩
  else
    none

def number (t : Time) : Int := 3600 * t.hour + 60 * t.minute + t.second

/-- The whole second with number `n`, counted around the clock. -/
def ofNumber (n : Int) : Time :=
  let s := (n % 86400).toNat
  ⟨s / 3600, s / 60 % 60, s % 60, 0, by omega⟩

/-- Earlier or equal: by whole seconds, then by nanoseconds. -/
def le (a b : Time) : Bool := a.number < b.number || (a.number = b.number && a.nano ≤ b.nano)

end Time

/-- A date with a time. -/
structure Moment where
  date : Date
  time : Time
deriving DecidableEq

namespace Moment

/-- The number of the first of January 1970. -/
def epoch : Int := 719163

def number (m : Moment) : Int := (m.date.number - epoch) * 86400 + m.time.number

def ofNumber (n : Int) : Moment := ⟨.ofNumber (n / 86400 + epoch), .ofNumber n⟩

def le (a b : Moment) : Bool :=
  a.date.number < b.date.number || (a.date.number = b.date.number && a.time.le b.time)

end Moment

end TestDesign.Calendar
