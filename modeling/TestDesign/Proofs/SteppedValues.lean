import TestDesign.Data.Generate
import TestDesign.Proofs.StepRanges

/-!
# TestDesign.Proofs.SteppedValues

Integers, dates, times and moments are the ordered data types whose values lie at equal steps.
`Stepped` ties such a type to its domain; what is proved of a `Stepped` type holds of all four.

* `always_atBoundary`: a compatible boundary case always gets a value of the type, at an index that
  the range allows for the boundary; `always_filled_from`: filling an element gives it a declared
  value or one between the bounds.
* `valid_places`, `invalid_places`, `always_contained`: where that value lies, by the verdict.
-/

namespace TestDesign

open Calendar TestDesign.Random

namespace Value

/-- The value is one of the given type itself, not a list of such values. -/
def IsOf : Value → DataType → Prop
  | .bool _, .boolean | .int _, .integer | .real _, .real | .text _, .string | .date _, .date
  | .time _, .time | .dateTime _, .dateTime => True
  | _, _ => False

/-- One value lies before another one of its type. -/
def Precedes : Value → Value → Prop
  | .int a, .int b => a < b
  | .date a, .date b => a.number < b.number
  | .time a, .time b => a.number < b.number ∨ a.number = b.number ∧ a.nano < b.nano
  | .dateTime a, .dateTime b =>
    a.number < b.number ∨ a.number = b.number ∧ a.time.nano < b.time.nano
  | _, _ => False

end Value

namespace ValueRange

variable {α : Type} {kind : PropertyKind} {convert : Value → Option α}

theorem typed_eq_ok {x : Option Value} {y : Option α} (h : typed kind convert x = .ok y) :
    x.isSome = y.isSome ∧ ∀ v ∈ x, ∃ z, convert v = some z ∧ y = some z := by
  cases x with
  | none =>
    cases h
    exact ⟨rfl, nofun⟩
  | some v =>
    simp only [typed] at h
    split at h
    · rename_i z hz
      cases h
      refine ⟨rfl, ?_⟩
      intro v' hv'
      cases hv'
      exact ⟨z, hz, rfl⟩
    · cases h

theorem bounds_eq_ok {min max : Option Value} {lo hi : Option α}
    (h : bounds convert min max = .ok (lo, hi)) :
    typed .minValue convert min = .ok lo ∧ typed .maxValue convert max = .ok hi := by
  unfold bounds at h
  split at h
  · cases h
  · rename_i hlo
    split at h
    · cases h
    · rename_i hhi
      cases h
      exact ⟨hlo, hhi⟩

end ValueRange

/-- A data type whose values are those of a domain of steps. -/
structure Stepped (t : DataType) {α : Type} (d : StepDomain α) where
  lawful : d.Lawful d.greatest
  closed : d.isOpenAbove = false
  /-- The value of the domain in a declared value. -/
  read : Value → Option α
  value : α → Value
  range : StepRange d → ValueRange
  of_eq : ∀ min max delta, ValueRange.of t min max delta = ValueRange.steps d read range min max
  drawAt_range : ∀ r b, (range r).drawAt b = do return value (← r.drawAt b)
  hasBelow_range : ∀ r, (range r).hasBelow = r.hasBelow
  hasAbove_range : ∀ r, (range r).hasAbove = r.hasAbove
  holds_range : ∀ r, (range r).holds = r.holds
  read_value : ∀ x, read (value x) = some x
  exists_value : ∀ {v : Value}, v.IsOf t → ∃ x, v = value x
  isOf_value : ∀ x, (value x).IsOf t
  precedes_of_le : ∀ {x y}, d.le y x = false → (value x).Precedes (value y)

namespace Stepped

def integers : Stepped .integer StepDomain.integers where
  lawful := StepDomain.integers_lawful
  closed := rfl
  read := Value.asInt
  value := .int
  range := .integer
  of_eq _ _ _ := rfl
  drawAt_range _ _ := rfl
  hasBelow_range _ := rfl
  hasAbove_range _ := rfl
  holds_range _ := rfl
  read_value _ := rfl
  exists_value {v} h := by cases v <;> first | exact ⟨_, rfl⟩ | cases h
  isOf_value _ := trivial
  precedes_of_le {x y} h := by
    have h : ¬ y.toInt ≤ x.toInt := of_decide_eq_false h
    exact Int64.lt_iff_toInt_lt.2 (Int.not_le.1 h)

def dates : Stepped .date StepDomain.dates where
  lawful := StepDomain.dates_lawful
  closed := rfl
  read := Value.asDate
  value := .date
  range := .date
  of_eq _ _ _ := rfl
  drawAt_range _ _ := rfl
  hasBelow_range _ := rfl
  hasAbove_range _ := rfl
  holds_range _ := rfl
  read_value _ := rfl
  exists_value {v} h := by cases v <;> first | exact ⟨_, rfl⟩ | cases h
  isOf_value _ := trivial
  precedes_of_le {x y} h := by
    have h : ¬ y.number ≤ x.number := of_decide_eq_false h
    exact Int.not_le.1 h

def times : Stepped .time StepDomain.times where
  lawful := StepDomain.times_lawful
  closed := rfl
  read := Value.asTime
  value := .time
  range := .time
  of_eq _ _ _ := rfl
  drawAt_range _ _ := rfl
  hasBelow_range _ := rfl
  hasAbove_range _ := rfl
  holds_range _ := rfl
  read_value _ := rfl
  exists_value {v} h := by cases v <;> first | exact ⟨_, rfl⟩ | cases h
  isOf_value _ := trivial
  precedes_of_le {x y} h := by
    have h := mt (Time.le_iff y x).2 (Bool.eq_false_iff.1 h)
    simp only [Value.Precedes]
    omega

def moments : Stepped .dateTime StepDomain.moments where
  lawful := StepDomain.moments_lawful
  closed := rfl
  read := Value.asDateTime
  value := .dateTime
  range := .dateTime
  of_eq _ _ _ := rfl
  drawAt_range _ _ := rfl
  hasBelow_range _ := rfl
  hasAbove_range _ := rfl
  holds_range _ := rfl
  read_value _ := rfl
  exists_value {v} h := by cases v <;> first | exact ⟨_, rfl⟩ | cases h
  isOf_value _ := trivial
  precedes_of_le {x y} h := by
    have h := mt (Moment.le_iff y x).2 (Bool.eq_false_iff.1 h)
    simp only [Value.Precedes]
    omega

variable {t : DataType} {α : Type} {d : StepDomain α} (S : Stepped t d) {c : Constraints}
  {lo hi : Option α} {r : StepRange d} {b : Boundary}

/-- The constraints are those of the type, with the given bounds. -/
structure Bounds (c : Constraints) (lo hi : Option α) : Prop where
  dataType : c.dataType = t
  minValue : c.minValue = lo.map S.value
  maxValue : c.maxValue = hi.map S.value

theorem typed_map (kind : PropertyKind) (x : Option α) :
    ValueRange.typed kind S.read (x.map S.value) = .ok x := by
  cases x with
  | none => rfl
  | some x => simp [ValueRange.typed, S.read_value]

/-- The constraints are those of the type, with bounds that can be read as the given ones. A date,
say, may be bounded by a moment. -/
structure Reads (c : Constraints) (lo hi : Option α) : Prop where
  dataType : c.dataType = t
  bounds : ValueRange.bounds S.read c.minValue c.maxValue = .ok (lo, hi)

variable {S} in
theorem Bounds.reads (hb : S.Bounds c lo hi) : S.Reads c lo hi where
  dataType := hb.dataType
  bounds := by simp [ValueRange.bounds, hb.minValue, hb.maxValue, S.typed_map]

/-- The distance between reals is of no account for the type. -/
theorem valueRange_of_reads (hb : S.Reads c lo hi) (delta : Option Float) :
    c.valueRange delta = (StepRange.of d lo hi).map fun r => some (S.range r) := by
  simp [Constraints.valueRange, hb.dataType, S.of_eq, ValueRange.steps, hb.bounds]

theorem valueRange_eq (hb : S.Bounds c lo hi) (delta : Option Float) :
    c.valueRange delta = (StepRange.of d lo hi).map fun r => some (S.range r) :=
  S.valueRange_of_reads hb.reads delta

/-- Where some boundary has a verdict, the bounds can be read and there is a range. -/
theorem exists_reads (ht : c.dataType = t) (hv : c.verdict (.value b) ≠ .incompatible) :
    ∃ lo hi r, S.Reads c lo hi ∧ StepRange.of d lo hi = .ok r := by
  have hrange : ∃ x, c.valueRange none = .ok x := by
    simp only [Constraints.verdict, Constraints.valueExtent?] at hv
    split at hv
    · rename_i r hr
      exact ⟨_, hr⟩
    · exact absurd rfl hv
  obtain ⟨x, hx⟩ := hrange
  simp only [Constraints.valueRange, ht, S.of_eq, ValueRange.steps] at hx
  split at hx
  · cases hx
  · rename_i lo hi hbounds
    cases hr : StepRange.of d lo hi with
    | error fault => simp [hr, Except.map] at hx
    | ok r => exact ⟨lo, hi, r, ⟨ht, hbounds⟩, hr⟩

include S in
theorem top_eq (hr : StepRange.of d lo hi = .ok r) : r.top = d.greatest := by
  rw [(StepRange.of_eq_ok hr).1]
  unfold StepRange.topFor
  split
  · simp [S.closed]
  · rfl

theorem verdict_of_reads (hb : S.Reads c lo hi) (hr : StepRange.of d lo hi = .ok r)
    (b : Boundary) :
    c.verdict (.value b) = (r.extent lo.isSome hi.isSome).verdict b := by
  obtain ⟨hlo, hhi⟩ := ValueRange.bounds_eq_ok hb.bounds
  have hx : c.valueExtent? = some (r.extent lo.isSome hi.isSome) := by
    simp [Constraints.valueExtent?, S.valueRange_of_reads hb, hr, Except.map, StepRange.extent,
      (ValueRange.typed_eq_ok hlo).1, (ValueRange.typed_eq_ok hhi).1, S.hasBelow_range,
      S.hasAbove_range, S.holds_range]
  simp [Constraints.verdict, hx, Constraints.verdictIn]

theorem verdict_eq (hb : S.Bounds c lo hi) (hr : StepRange.of d lo hi = .ok r) (b : Boundary) :
    c.verdict (.value b) = (r.extent lo.isSome hi.isSome).verdict b :=
  S.verdict_of_reads hb.reads hr b

/-! ## Values at boundaries -/

theorem always_drawAt (r : StepRange d) (b : Boundary) :
    Draw.Always ((S.range r).drawAt b) fun v => ∃ i, v = S.value (d.value i) ∧ r.Places b i := by
  rw [S.drawAt_range]
  refine Draw.always_bind (P := fun x => ∃ i, x = d.value i ∧ r.Places b i) ?_ ?_
  · exact Draw.always_bind (r.always_indexAt b) fun i hi => Draw.always_pure ⟨i, rfl, hi⟩
  · rintro x ⟨i, rfl, hi⟩
    exact Draw.always_pure ⟨i, rfl, hi⟩

theorem always_of_reads (g : Generator) (hb : S.Reads c lo hi) (hr : StepRange.of d lo hi = .ok r)
    (hv : c.verdict (.value b) ≠ .incompatible) :
    Draw.Always (g.generate (.value b) c)
      fun x => ∃ i, x = .ok (S.value (d.value i)) ∧ r.Places b i := by
  unfold Generator.generate
  rw [if_neg hv]
  simp only [Generator.compatible, Generator.atValue, S.valueRange_of_reads hb, hr, Except.map]
  refine Draw.always_bind (S.always_drawAt r b) ?_
  rintro v ⟨i, rfl, hi⟩
  exact Draw.always_pure ⟨i, rfl, hi⟩

theorem always_atBoundary (g : Generator) (hb : S.Bounds c lo hi)
    (hr : StepRange.of d lo hi = .ok r) (hv : c.verdict (.value b) ≠ .incompatible) :
    Draw.Always (g.generate (.value b) c)
      fun x => ∃ i, x = .ok (S.value (d.value i)) ∧ r.Places b i :=
  S.always_of_reads g hb.reads hr hv

/-- The value at a valid boundary lies in the range. -/
theorem always_contained (g : Generator) (hb : S.Reads c lo hi)
    (hr : StepRange.of d lo hi = .ok r) (hv : c.verdict (.value b) = .valid) :
    Draw.Always (g.generate (.value b) c)
      fun x => ∃ y, x = .ok (S.value y) ∧ r.contains y = true := by
  have hmax : r.max ≤ d.greatest := by
    rw [← S.top_eq hr]
    exact r.max_le_top
  have hvr := hv
  rw [S.verdict_of_reads hb hr] at hvr
  refine (S.always_of_reads g hb hr (by rw [hv]; decide)).mono ?_
  rintro x ⟨i, rfl, hi⟩
  exact ⟨d.value i, rfl, StepRange.contains_of_valid S.lawful hmax hvr hi⟩

/-- An element is filled with its declared value, one of the accepted values or a value between its
bounds. -/
theorem always_filled_from (g : Generator) (hb : S.Bounds c lo hi)
    (hr : StepRange.of d lo hi = .ok r) (hformat : c.format = none) :
    Draw.Always (g.generate .filled c) fun x => ∃ v, x = .ok v ∧
      (c.value = some v ∨ v ∈ c.accepted ∨
        ∃ i, v = S.value (d.value i) ∧ r.min ≤ i ∧ i ≤ r.max) := by
  have hv : c.verdict .filled ≠ .incompatible := nofun
  unfold Generator.generate
  rw [if_neg hv]
  simp only [Generator.compatible, Generator.filled, hformat]
  cases hvalue : c.value with
  | some v => exact Draw.always_pure ⟨v, rfl, .inl rfl⟩
  | none =>
    refine Draw.always_bind (Draw.always_choose c.accepted) fun x hx => ?_
    cases x with
    | some v => exact Draw.always_pure ⟨v, rfl, .inr (.inl (hx v rfl))⟩
    | none =>
      simp only [Generator.plain, S.valueRange_eq hb, hr, Except.map]
      refine Draw.always_bind (S.always_drawAt r .randomBetweenMinMax) ?_
      rintro v ⟨i, rfl, hi⟩
      exact Draw.always_pure ⟨_, rfl, .inr (.inr ⟨i, rfl, hi⟩)⟩

/-- Filling an element that declares nothing but bounds gives it a value between them. -/
theorem always_filled (g : Generator) (hb : S.Bounds c lo hi)
    (hr : StepRange.of d lo hi = .ok r) (hvalue : c.value = none) (haccepted : c.accepted = [])
    (hformat : c.format = none) :
    Draw.Always (g.generate .filled c)
      fun x => ∃ i, x = .ok (S.value (d.value i)) ∧ r.min ≤ i ∧ i ≤ r.max := by
  refine (S.always_filled_from g hb hr hformat).mono ?_
  rintro x ⟨v, rfl, hdeclared | hlisted | ⟨i, rfl, hi⟩⟩
  · rw [hvalue] at hdeclared
    cases hdeclared
  · rw [haccepted] at hlisted
    cases hlisted
  · exact ⟨i, rfl, hi⟩

theorem valid_places (hb : S.Bounds c lo hi) (hr : StepRange.of d lo hi = .ok r)
    (hv : c.verdict (.value b) = .valid) {i : Int} (hi : r.Places b i) :
    r.min ≤ i ∧ i ≤ r.max := by
  rw [S.verdict_eq hb hr] at hv
  exact StepRange.inside_of_valid S.lawful (StepRange.greatest_le_top hr)
    (Int.le_of_eq (S.top_eq hr)) hv hi

theorem invalid_places (hb : S.Bounds c lo hi) (hr : StepRange.of d lo hi = .ok r)
    (hv : c.verdict (.value b) = .invalid) {i : Int} (hi : r.Places b i) :
    i < r.min ∨ r.max < i := by
  rw [S.verdict_eq hb hr] at hv
  exact StepRange.outside_of_invalid S.lawful (StepRange.greatest_le_top hr)
    (Int.le_of_eq (S.top_eq hr)) hv hi

section Integers

variable {lo hi : Option Int64} {r : StepRange StepDomain.integers}

theorem min_integers (hr : StepRange.of .integers lo hi = .ok r) :
    r.min = (lo.map Int64.toInt).getD Value.minInt := by
  rw [(StepRange.of_eq_ok hr).2.1, integers.top_eq hr]
  cases lo with
  | none => rfl
  | some m => exact StepDomain.clamp_eq_self m.le_toInt (Int.lt_add_one_iff.1 m.toInt_lt)

theorem max_integers (hr : StepRange.of .integers lo hi = .ok r) :
    r.max = (hi.map Int64.toInt).getD Value.maxInt := by
  rw [(StepRange.of_eq_ok hr).2.2, integers.top_eq hr]
  cases hi with
  | none => rfl
  | some m => exact StepDomain.clamp_eq_self m.le_toInt (Int.lt_add_one_iff.1 m.toInt_lt)

end Integers

end Stepped

end TestDesign
