/-!
# TestDesign.Calendar.Date

Days of the Gregorian calendar, applied backwards to the years before it was adopted; the year
before year 1 is year 0. A date also has a number: day 1 is the first of January of year 1.

`Date.ofNumber` finds the date of a number. It guesses the year from the mean length of a year,
which is at most one year off (`yearOf_bounds`), and splits the rest over the months.
-/

namespace TestDesign.Calendar

def isLeap (year : Int) : Bool := year % 4 = 0 ∧ (year % 100 ≠ 0 ∨ year % 400 = 0)

def monthLength (leap : Bool) : Nat → Nat
  | 1 => 31
  | 2 => if leap then 29 else 28
  | 3 => 31
  | 4 => 30
  | 5 => 31
  | 6 => 30
  | 7 => 31
  | 8 => 31
  | 9 => 30
  | 10 => 31
  | 11 => 30
  | 12 => 31
  | _ => 0

def yearLength (leap : Bool) : Nat := if leap then 366 else 365

/-- A day of the calendar. The condition on the day also keeps the month between 1 and 12. -/
structure Date where
  year : Int
  month : Nat
  day : Nat
  valid : 1 ≤ day ∧ day ≤ monthLength (isLeap year) month
deriving DecidableEq

/-- The days of the months before month `m`. -/
def daysBeforeMonth (leap : Bool) : Nat → Nat
  | 0 => 0
  | m + 1 => daysBeforeMonth leap m + monthLength leap m

/-- The days before the first of January of a year, from year 1 on. -/
def daysBeforeYear (year : Int) : Int :=
  365 * (year - 1) + (year - 1) / 4 - (year - 1) / 100 + (year - 1) / 400

theorem daysBeforeYear_succ (year : Int) :
    daysBeforeYear (year + 1) = daysBeforeYear year + yearLength (isLeap year) := by
  unfold daysBeforeYear yearLength isLeap
  by_cases h : year % 4 = 0 ∧ (year % 100 ≠ 0 ∨ year % 400 = 0) <;> simp [h] <;> omega

/-- The year that the mean length of a year gives for day `n`. -/
def guessYear (n : Int) : Int := 400 * (n - 1) / 146097 + 1

/-- The year of the day with number `n`: the guess or one of its neighbours. -/
def yearOf (n : Int) : Int :=
  if daysBeforeYear (guessYear n + 1) < n then guessYear n + 1
  else if n ≤ daysBeforeYear (guessYear n) then guessYear n - 1
  else guessYear n

theorem yearOf_bounds (n : Int) :
    daysBeforeYear (yearOf n) < n ∧ n ≤ daysBeforeYear (yearOf n + 1) := by
  unfold yearOf
  split
  · rename_i h
    refine ⟨h, ?_⟩
    unfold daysBeforeYear guessYear at *
    omega
  · split
    · rename_i h h'
      unfold daysBeforeYear guessYear at *
      omega
    · omega

/-- Month and day of the `d`-th day of a year, over the lengths of the months from `m` on. -/
def splitDay : List Nat → Nat → Nat → Nat × Nat
  | [], m, d => (m, d)
  | l :: ls, m, d => if d ≤ l then (m, d) else splitDay ls (m + 1) (d - l)

/-- Month and day of the `d`-th day of a year. -/
def monthAndDay (leap : Bool) (d : Nat) : Nat × Nat :=
  splitDay ((List.range' 1 12).map (monthLength leap)) 1 d

theorem monthAndDay_valid (leap : Bool) (d : Fin 367) (h : 1 ≤ d.val ∧ d.val ≤ yearLength leap) :
    1 ≤ (monthAndDay leap d).2 ∧
      (monthAndDay leap d).2 ≤ monthLength leap (monthAndDay leap d).1 := by
  revert leap d
  decide +kernel

theorem yearLength_le (leap : Bool) : yearLength leap ≤ 366 := by cases leap <;> decide

namespace Date

/-- The years that dates may have. -/
def minYear : Int := -262143

def maxYear : Int := 262142

/-- The date with the given year, month and day, if there is one. -/
def of? (year : Int) (month day : Nat) : Option Date :=
  if h : 1 ≤ day ∧ day ≤ monthLength (isLeap year) month then
    if minYear ≤ year ∧ year ≤ maxYear then some ⟨year, month, day, h⟩ else none
  else
    none

/-- The number of a date. -/
def number (d : Date) : Int :=
  daysBeforeYear d.year + daysBeforeMonth (isLeap d.year) d.month + d.day

/-- The date with number `n`. -/
def ofNumber (n : Int) : Date :=
  let leap := isLeap (yearOf n)
  let d := (n - daysBeforeYear (yearOf n)).toNat
  ⟨yearOf n, (monthAndDay leap d).1, (monthAndDay leap d).2, by
    have h := yearOf_bounds n
    have h' := daysBeforeYear_succ (yearOf n)
    have h'' := yearLength_le (isLeap (yearOf n))
    exact monthAndDay_valid leap ⟨d, by omega⟩ (by simp only [d, leap]; omega)⟩

instance : Inhabited Date := ⟨ofNumber 1⟩

end Date

end TestDesign.Calendar
