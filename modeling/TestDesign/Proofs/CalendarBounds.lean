import TestDesign.Proofs.SteppedValues

/-!
# TestDesign.Proofs.CalendarBounds

Dates, times and moments of valid value cases and the bounds that their element declares. A range
counts days or whole seconds of the years 1 to 9999, so a bound counts as its own whole second or, if
it lies outside of these years, as the end nearest to it (`Value.counted`). The values drawn keep what
counts of the bounds, and so they keep the declared bounds themselves, in nanoseconds, with two
exceptions: a maximum before year 1, and a minimum after year 9999 or with a fraction of a second.
-/

namespace TestDesign

open TestDesign.Random

namespace Calendar

/-- The date, or the end of the years 1 to 9999 that is nearest to it. -/
def Date.counted (d : Date) : Date :=
  if d.year < 1 then .ofNumber 1 else if 9999 < d.year then .ofNumber 3652059 else d

/-- The whole second of the time. -/
def Time.counted (t : Time) : Time :=
  ⟨t.hour, t.minute, t.second, 0, by
    have h := t.valid
    omega⟩

/-- The whole second of the moment, or the end of the years 1 to 9999 that is nearest to it. -/
def Moment.counted (m : Moment) : Moment :=
  if m.date.year < 1 then .ofNumber (-62135596800)
  else if 9999 < m.date.year then .ofNumber 253402300799
  else ⟨m.date, m.time.counted⟩

namespace Date

theorem one_le_number_iff (d : Date) : 1 ≤ d.number ↔ 1 ≤ d.year := by
  have h := d.number_le_daysBeforeYear_iff 1
  have hdays : daysBeforeYear 1 = 0 := rfl
  omega

theorem number_le_iff (d : Date) : d.number ≤ 3652059 ↔ d.year ≤ 9999 := by
  have h := d.number_le_daysBeforeYear_iff 10000
  have hdays : daysBeforeYear 10000 = 3652059 := rfl
  omega

theorem value_number (d : Date) : StepDomain.dates.value d.number = d.counted := by
  have hfirst := d.one_le_number_iff
  have hlast := d.number_le_iff
  simp only [StepDomain.dates, counted]
  split
  · rw [StepDomain.clamp_eq_lower (by omega)]
  · split
    · rw [StepDomain.clamp_eq_upper (by omega) (by omega)]
    · rw [StepDomain.clamp_eq_self (by omega) (by omega), ofNumber_number]

theorem number_counted (d : Date) :
    d.counted.number = StepDomain.clamp 1 3652059 d.number := by
  rw [← d.value_number]
  exact number_ofNumber _

theorem number_le_counted {d : Date} (h : d.year ≤ 9999) : d.number ≤ d.counted.number := by
  rw [d.number_counted]
  exact StepDomain.le_clamp (d.number_le_iff.2 h)

theorem counted_le_number {d : Date} (h : 1 ≤ d.year) : d.counted.number ≤ d.number := by
  rw [d.number_counted]
  exact StepDomain.clamp_le (d.one_le_number_iff.2 h)

end Date

namespace Time

theorem number_counted (t : Time) : t.counted.number = t.number := rfl

theorem counted_eq_self {t : Time} (h : t.nano = 0) : t.counted = t := by
  simp only [counted, ← h]

theorem ofNumber_number (t : Time) : ofNumber t.number = t.counted := by
  have hvalid := t.valid
  simp only [ofNumber, number, counted, Time.mk.injEq, and_true]
  omega

theorem value_number (t : Time) : StepDomain.times.value t.number = t.counted := by
  have h₁ := t.number_lt
  simp only [StepDomain.times]
  rw [StepDomain.clamp_eq_self t.number_nonneg (by omega), ofNumber_number]

end Time

namespace Moment

theorem number_eq (m : Moment) : m.number = (m.date.number - 719163) * 86400 + m.time.number := rfl

theorem ofNumber_number (m : Moment) : ofNumber m.number = ⟨m.date, m.time.counted⟩ := by
  have h₀ := m.time.number_nonneg
  have h₁ := m.time.number_lt
  have hnumber := m.number_eq
  have hday : m.number / 86400 + epoch = m.date.number := by
    unfold epoch
    omega
  have hsecond : Time.ofNumber m.number = Time.ofNumber m.time.number := by
    have hmod : m.number % 86400 = m.time.number % 86400 := by omega
    simp only [Time.ofNumber, hmod]
  unfold ofNumber
  rw [hday, hsecond, Date.ofNumber_number, Time.ofNumber_number]

theorem value_number (m : Moment) : StepDomain.moments.value m.number = m.counted := by
  have hfirst := m.date.one_le_number_iff
  have hlast := m.date.number_le_iff
  have h₀ := m.time.number_nonneg
  have h₁ := m.time.number_lt
  have hnumber := m.number_eq
  simp only [StepDomain.moments, counted]
  split
  · rw [StepDomain.clamp_eq_lower (by omega)]
  · split
    · rw [StepDomain.clamp_eq_upper (by omega) (by omega)]
    · rw [StepDomain.clamp_eq_self (by omega) (by omega), ofNumber_number]

theorem nano_counted (m : Moment) : m.counted.time.nano = 0 := by
  unfold counted
  split
  · rfl
  · split <;> rfl

theorem number_counted (m : Moment) :
    m.counted.number = StepDomain.clamp (-62135596800) 253402300799 m.number := by
  rw [← m.value_number]
  exact number_ofNumber _

theorem number_le_counted {m : Moment} (h : m.date.year ≤ 9999) : m.number ≤ m.counted.number := by
  have hlast := m.date.number_le_iff.2 h
  have h₁ := m.time.number_lt
  have hnumber := m.number_eq
  rw [m.number_counted]
  exact StepDomain.le_clamp (by omega)

theorem counted_le_number {m : Moment} (h : 1 ≤ m.date.year) : m.counted.number ≤ m.number := by
  have hfirst := m.date.one_le_number_iff.2 h
  have h₀ := m.time.number_nonneg
  have hnumber := m.number_eq
  rw [m.number_counted]
  exact StepDomain.clamp_le (by omega)

end Moment

end Calendar

open Calendar

namespace Value

/-- What counts of a bound. -/
def counted : Value → Value
  | .date d => .date d.counted
  | .time t => .time t.counted
  | .dateTime m => .dateTime m.counted
  | v => v

/-- The year of a date or a moment. -/
def year? : Value → Option Int
  | .date d => some d.year
  | .dateTime m => some m.date.year
  | _ => none

/-- The fraction of a second, in nanoseconds. -/
def nanos : Value → Nat
  | .time t => t.nano
  | .dateTime m => m.time.nano
  | _ => 0

variable {v m : Value}

theorem precedes_counted (h : v.Precedes m) (hnanos : m.nanos = 0)
    (hyear : ∀ y ∈ m.year?, y ≤ 9999) : v.Precedes m.counted := by
  cases m with
  | date d =>
    cases v with
    | date e => exact Int.lt_of_lt_of_le h (Date.number_le_counted (hyear _ rfl))
    | _ => cases h
  | time t =>
    cases v with
    | time u =>
      simp only [Precedes, nanos] at h hnanos
      simp only [counted, Precedes, t.number_counted]
      omega
    | _ => cases h
  | dateTime m =>
    cases v with
    | dateTime n =>
      have hle := Moment.number_le_counted (hyear m.date.year rfl)
      simp only [Precedes, nanos] at h hnanos
      simp only [counted, Precedes, m.nano_counted]
      omega
    | _ => cases h
  | _ => exact h

theorem counted_precedes (h : m.Precedes v) (hyear : ∀ y ∈ m.year?, 1 ≤ y) :
    m.counted.Precedes v := by
  cases m with
  | date d =>
    cases v with
    | date e => exact Int.lt_of_le_of_lt (Date.counted_le_number (hyear _ rfl)) h
    | _ => cases h
  | time t =>
    cases v with
    | time u =>
      have hnano : t.counted.nano = 0 := rfl
      simp only [Precedes] at h
      simp only [counted, Precedes, t.number_counted, hnano]
      omega
    | _ => cases h
  | dateTime m =>
    cases v with
    | dateTime n =>
      have hle := Moment.counted_le_number (hyear m.date.year rfl)
      simp only [Precedes] at h
      simp only [counted, Precedes, m.nano_counted]
      omega
    | _ => cases h
  | _ => exact h

end Value

namespace Stepped

variable {t : DataType} {α : Type} {d : StepDomain α}

/-- The values of the type are counted by their numbers. -/
structure Counting (S : Stepped t d) : Prop where
  value_clamp : ∀ i, d.value (StepDomain.clamp d.lowest d.greatest i) = d.value i
  value_index : ∀ x, S.value (d.value (d.index x)) = (S.value x).counted
  not_precedes_of_le : ∀ {x y}, d.le x y = true → ¬ (S.value y).Precedes (S.value x)
  convert?_of_read : ∀ {v x}, S.read v = some x → v.convert? t = some (S.value x)

theorem dates_counting : dates.Counting where
  value_clamp i := congrArg Date.ofNumber (StepDomain.clamp_clamp (by decide) i)
  value_index x := congrArg Value.date x.value_number
  not_precedes_of_le {x y} h := by
    have h : x.number ≤ y.number := of_decide_eq_true h
    exact Int.not_lt.2 h
  convert?_of_read {v x} h := by
    have h : v.asDate = some x := h
    simp [Value.convert?, h, dates]

theorem times_counting : times.Counting where
  value_clamp i := congrArg Time.ofNumber (StepDomain.clamp_clamp (by decide) i)
  value_index x := congrArg Value.time x.value_number
  not_precedes_of_le {x y} h := by
    have h := (Time.le_iff x y).1 h
    simp only [times, Value.Precedes]
    omega
  convert?_of_read {v x} h := by
    have h : v.asTime = some x := h
    simp [Value.convert?, h, times]

theorem moments_counting : moments.Counting where
  value_clamp i := congrArg Moment.ofNumber (StepDomain.clamp_clamp (by decide) i)
  value_index x := congrArg Value.dateTime x.value_number
  not_precedes_of_le {x y} h := by
    have h := (Moment.le_iff x y).1 h
    simp only [moments, Value.Precedes]
    omega
  convert?_of_read {v x} h := by
    have h : v.asDateTime = some x := h
    simp [Value.convert?, h, moments]

variable {S : Stepped t d} (K : S.Counting) {lo hi : Option α} {r : StepRange d} {x y : α}

include K in
theorem not_precedes_counted (hr : StepRange.of d lo hi = .ok r) (hy : r.contains y = true)
    (hx : lo = some x) : ¬ (S.value y).Precedes (S.value x).counted := by
  have hmin := (StepRange.of_eq_ok hr).2.1
  simp only [StepRange.contains, Bool.and_eq_true] at hy
  rw [hmin, S.top_eq hr, hx, Option.map_some, StepRange.boundFor, K.value_clamp] at hy
  rw [← K.value_index]
  exact K.not_precedes_of_le hy.1

include K in
theorem counted_not_precedes (hr : StepRange.of d lo hi = .ok r) (hy : r.contains y = true)
    (hx : hi = some x) : ¬ (S.value x).counted.Precedes (S.value y) := by
  have hmax := (StepRange.of_eq_ok hr).2.2
  simp only [StepRange.contains, Bool.and_eq_true] at hy
  rw [hmax, S.top_eq hr, hx, Option.map_some, StepRange.boundFor, K.value_clamp] at hy
  rw [← K.value_index]
  exact K.not_precedes_of_le hy.2

end Stepped

/-- The value lies between what counts of the declared bounds, and between these bounds themselves
where they lie within the years 1 to 9999 and the minimum has no fraction of a second. A bound is
read as a value of the type of the element. -/
structure KeepsBounds (c : Constraints) (v : Value) : Prop where
  min : ∀ declared ∈ c.minValue, ∃ m, declared.convert? c.dataType = some m ∧
    ¬ v.Precedes m.counted ∧
    (m.nanos = 0 → (∀ y ∈ m.year?, y ≤ 9999) → ¬ v.Precedes m)
  max : ∀ declared ∈ c.maxValue, ∃ m, declared.convert? c.dataType = some m ∧
    ¬ m.counted.Precedes v ∧
    ((∀ y ∈ m.year?, 1 ≤ y) → ¬ m.Precedes v)

variable {c : Constraints} {b : Boundary}

theorem Stepped.Counting.always_keepsBounds {t : DataType} {α : Type} {d : StepDomain α}
    {S : Stepped t d} (K : S.Counting) (ht : c.dataType = t) (hv : c.verdict (.value b) = .valid)
    (g : Generator) :
    Draw.Always (g.generate (.value b) c)
      fun x => ∃ v, x = .ok v ∧ v.IsOf t ∧ KeepsBounds c v := by
  obtain ⟨lo, hi, r, hb, hr⟩ := S.exists_reads ht (by rw [hv]; decide)
  obtain ⟨hlo, hhi⟩ := ValueRange.bounds_eq_ok hb.bounds
  refine (S.always_contained g hb hr hv).mono ?_
  rintro x ⟨y, rfl, hy⟩
  refine ⟨S.value y, rfl, S.isOf_value y, ?_, ?_⟩
  · intro declared hdeclared
    obtain ⟨m, hread, hm⟩ := (ValueRange.typed_eq_ok hlo).2 declared hdeclared
    have hkept := Stepped.not_precedes_counted K hr hy hm
    refine ⟨S.value m, ?_, hkept, ?_⟩
    · rw [ht]
      exact K.convert?_of_read hread
    · intro hnanos hyear hbefore
      exact hkept (Value.precedes_counted hbefore hnanos hyear)
  · intro declared hdeclared
    obtain ⟨m, hread, hm⟩ := (ValueRange.typed_eq_ok hhi).2 declared hdeclared
    have hkept := Stepped.counted_not_precedes K hr hy hm
    refine ⟨S.value m, ?_, hkept, ?_⟩
    · rw [ht]
      exact K.convert?_of_read hread
    · intro hyear hafter
      exact hkept (Value.counted_precedes hafter hyear)

/-- The date, time or moment drawn for a valid value case keeps the declared bounds. -/
theorem valid_calendar_value_keeps_bounds
    (ht : c.dataType = .date ∨ c.dataType = .time ∨ c.dataType = .dateTime)
    (hv : c.verdict (.value b) = .valid) (g : Generator) :
    Draw.Always (g.generate (.value b) c)
      fun x => ∃ v, x = .ok v ∧ v.IsOf c.dataType ∧ KeepsBounds c v := by
  rcases ht with ht | ht | ht
  · rw [ht]
    exact Stepped.dates_counting.always_keepsBounds ht hv g
  · rw [ht]
    exact Stepped.times_counting.always_keepsBounds ht hv g
  · rw [ht]
    exact Stepped.moments_counting.always_keepsBounds ht hv g

/-- Noon of the last day of February 2024. -/
def leapNoon : Moment := ⟨⟨2024, 2, 29, by decide⟩, ⟨12, 0, 0, 0, by decide⟩⟩

/-- Half a second after the following midnight. -/
def pastMidnight : Moment := ⟨⟨2024, 3, 1, by decide⟩, ⟨0, 0, 0, 500000000, by decide⟩⟩

/-- A moment of the half day between them. -/
def afternoon : Constraints where
  dataType := .dateTime
  minValue := some (.dateTime leapNoon)
  maxValue := some (.dateTime pastMidnight)

/-- The fraction of a second of a maximum is no exception. -/
theorem afternoon_keeps_bounds :
    afternoon.check = .ok () ∧ afternoon.verdict (.value .max) = .valid ∧
      Draw.Always (({} : Generator).generate (.value .max) afternoon) fun x => ∃ v, x = .ok v ∧
        ¬ v.Precedes (.dateTime leapNoon) ∧ ¬ (Value.dateTime pastMidnight).Precedes v := by
  have hv : afternoon.verdict (.value .max) = .valid := rfl
  refine ⟨rfl, hv, (valid_calendar_value_keeps_bounds (.inr (.inr rfl)) hv {}).mono ?_⟩
  rintro x ⟨v, rfl, -, hkeeps⟩
  obtain ⟨m, hm, -, hmin⟩ := hkeeps.min _ rfl
  obtain ⟨m', hm', -, hmax⟩ := hkeeps.max _ rfl
  cases hm
  cases hm'
  refine ⟨v, rfl, hmin rfl ?_, hmax ?_⟩
  · rintro y ⟨⟩
    decide
  · rintro y ⟨⟩
    decide

/-- The first day of the year 10000. -/
def farDay : Date := ⟨10000, 1, 1, by decide⟩

/-- Half a second after noon. -/
def pastNoon : Time := ⟨12, 0, 0, 500000000, by decide⟩

/-- A date from the year 10000 on. -/
def farFuture : Constraints where
  dataType := .date
  minValue := some (.date farDay)

/-- A time from half a second after noon on. -/
def lateLunch : Constraints where
  dataType := .time
  minValue := some (.time pastNoon)

/-- The lowest date and the lowest time that are called valid lie before the declared minimum. -/
theorem valid_calendar_value_may_precede_minimum :
    (farFuture.check = .ok () ∧ farFuture.verdict (.value .min) = .valid ∧
      ∀ g : Generator, Draw.Always (g.generate (.value .min) farFuture) fun x =>
        ∃ v, x = .ok v ∧ v.Precedes (.date farDay)) ∧
    (lateLunch.check = .ok () ∧ lateLunch.verdict (.value .min) = .valid ∧
      ∀ g : Generator, Draw.Always (g.generate (.value .min) lateLunch) fun x =>
        ∃ v, x = .ok v ∧ v.Precedes (.time pastNoon)) := by
  refine ⟨⟨rfl, rfl, fun g => ?_⟩, rfl, rfl, fun g => ?_⟩
  · have hlast : g.generate (.value .min) farFuture = return .ok (.date (.ofNumber 3652059)) := rfl
    rw [hlast]
    refine Draw.always_pure ⟨_, rfl, ?_⟩
    show (Date.ofNumber 3652059).number < farDay.number
    rw [Date.number_ofNumber]
    decide
  · have hnoon : g.generate (.value .min) lateLunch = return .ok (.time (.ofNumber 43200)) := rfl
    rw [hnoon]
    refine Draw.always_pure ⟨_, rfl, ?_⟩
    right
    decide

end TestDesign
