import Mathlib.Logic.Function.Iterate
import TestDesign.Proofs.BoundaryOrder
import TestDesign.Proofs.CalendarBounds
import TestDesign.Proofs.CalendarOrder

/-!
# TestDesign.Proofs.StepIndexes

Indexes count the values of a domain. A `Succession` describes these values by themselves: the first
and the last one, what comes next and what comes before what. For dates, times and moments it is the
calendar, with its months, leap years and carries.

* `StepDomain.Numbering`: what has to be known of one domain: an index grows by one where the value is
  followed by the next one, and orders values up to their fractions of a second.
* `Numbering.counts`: index and value are then inverse to each other and keep the order, and the
  values are those that come after the first one, up to the last one.
* `domains_count_their_steps`: this is so in all five domains.
-/

namespace TestDesign

open Calendar

/-- The values of a domain without their indexes. -/
structure Succession (α : Type) where
  first : α
  last : α
  next : α → α
  Before : α → α → Prop
  /-- The fraction of a second, in nanoseconds. -/
  nanos : α → Nat := fun _ => 0

namespace Succession

/-- The value lies within the limits, and at a step. -/
def IsStep {α : Type} (s : Succession α) (v : α) : Prop :=
  ¬ s.Before v s.first ∧ ¬ s.Before s.last v ∧ s.nanos v = 0

def integers : Succession Int64 where
  first := Int64.minValue
  last := Int64.maxValue
  next n := n + 1
  Before m n := m < n

/-- All lengths that a word of 64 bits can hold. -/
def lengths : Succession UInt64 where
  first := 0
  last := 18446744073709551615
  next n := n + 1
  Before m n := m < n

/-- The days of the years 1 to 9999. -/
def dates : Succession Date where
  first := ⟨1, 1, 1, by decide⟩
  last := ⟨9999, 12, 31, by decide⟩
  next := Date.next
  Before := Date.Before

/-- The seconds of a day. -/
def times : Succession Time where
  first := .midnight
  last := ⟨23, 59, 59, 0, by decide⟩
  next := Time.next
  Before := Time.Before
  nanos t := t.nano

/-- The seconds of the years 1 to 9999. -/
def moments : Succession Moment where
  first := ⟨dates.first, times.first⟩
  last := ⟨dates.last, times.last⟩
  next := Moment.next
  Before := Moment.Before
  nanos m := m.time.nano

end Succession

namespace StepDomain

variable {α : Type} {d : StepDomain α} {s : Succession α} {last : Int}

/-- Indexes number the values of the succession, from the lowest index to `last`. -/
structure Numbering (d : StepDomain α) (s : Succession α) (last : Int) : Prop where
  index_first : d.index s.first = d.lowest
  index_last : d.index s.last = last
  /-- After the last value a succession may start again. -/
  index_next : ∀ v, d.index v < last → d.index (s.next v) = d.index v + 1
  nanos_first : s.nanos s.first = 0
  nanos_last : s.nanos s.last = 0
  nanos_next : ∀ v, s.nanos v = 0 → s.nanos (s.next v) = 0
  nanos_value : ∀ i, s.nanos (d.value i) = 0
  before_iff : ∀ v w, s.Before v w ↔
    d.index v < d.index w ∨ d.index v = d.index w ∧ s.nanos v < s.nanos w
  le_iff : ∀ v w, d.le v w = true ↔
    d.index v < d.index w ∨ d.index v = d.index w ∧ s.nanos v ≤ s.nanos w
  value_index : ∀ v, d.lowest ≤ d.index v → d.index v ≤ last → s.nanos v = 0 →
    d.value (d.index v) = v

/-- Indexes and values of a domain belong together, from the lowest index to `last`. -/
structure Counts (d : StepDomain α) (s : Succession α) (last : Int) : Prop where
  index_value : ∀ i, d.lowest ≤ i → i ≤ last → d.index (d.value i) = i
  value_index_iff : ∀ v, d.value (d.index v) = v ↔ s.IsStep v
  isStep_iff : ∀ v, s.IsStep v ↔ (d.lowest ≤ d.index v ∧ d.index v ≤ last) ∧ s.nanos v = 0
  before_value : ∀ i j, d.lowest ≤ i → i < j → j ≤ last → s.Before (d.value i) (d.value j)
  /-- The domain compares its values by this order. -/
  le_iff : ∀ v w, d.le v w = true ↔ ¬ s.Before w v
  /-- The values are what comes after the first one. -/
  value_add : ∀ k : Nat, d.lowest + k ≤ last → d.value (d.lowest + k) = s.next^[k] s.first
  value_last : d.value last = s.last

theorem Known.lowest_le_last (hd : d.Known last) : d.lowest ≤ last :=
  Int.le_trans d.lowest_le_greatest hd.lawful.greatest_le_last

theorem Known.index_value (hd : d.Known last) (i : Int) :
    d.index (d.value i) = clamp d.lowest last i := by
  have hmem := clamp_mem hd.lowest_le_last i
  rw [← hd.value_clamp i]
  exact hd.lawful.index_value _ hmem.1 hmem.2

namespace Numbering

variable (h : d.Numbering s last) (hd : d.Known last)

include h in
theorem isStep_iff (v : α) :
    s.IsStep v ↔ (d.lowest ≤ d.index v ∧ d.index v ≤ last) ∧ s.nanos v = 0 := by
  have hfirst := h.index_first
  have hlast := h.index_last
  have hnanos := h.nanos_first
  have hnanos' := h.nanos_last
  simp only [Succession.IsStep, h.before_iff]
  omega

include h hd in
theorem value_index_iff (v : α) : d.value (d.index v) = v ↔ s.IsStep v := by
  rw [h.isStep_iff]
  constructor
  · intro hv
    -- An index outside the limits has the value of an end, and no value has a fraction.
    have hindex := hd.index_value (d.index v)
    have hnanos := h.nanos_value (d.index v)
    rw [hv] at hindex hnanos
    rw [hindex]
    exact ⟨clamp_mem hd.lowest_le_last _, hnanos⟩
  · rintro ⟨⟨hlow, hlast⟩, hnanos⟩
    exact h.value_index v hlow hlast hnanos

include h hd in
theorem before_value {i j : Int} (hi : d.lowest ≤ i) (hij : i < j) (hj : j ≤ last) :
    s.Before (d.value i) (d.value j) := by
  rw [h.before_iff, hd.lawful.index_value i hi (by omega), hd.lawful.index_value j (by omega) hj]
  exact .inl hij

include h hd in
theorem value_lowest : d.value d.lowest = s.first := by
  have hle := hd.lowest_le_last
  have hfirst := h.value_index s.first
  rw [h.index_first] at hfirst
  exact hfirst (Int.le_refl _) hle h.nanos_first

include h hd in
theorem value_last : d.value last = s.last := by
  have hle := hd.lowest_le_last
  have hlast := h.value_index s.last
  rw [h.index_last] at hlast
  exact hlast hle (Int.le_refl _) h.nanos_last

include h hd in
/-- The value of the next index is the next value. -/
theorem value_succ {i : Int} (hi : d.lowest ≤ i) (hlast : i < last) :
    d.value (i + 1) = s.next (d.value i) := by
  have hindex := hd.lawful.index_value i hi (by omega)
  have hnext := h.index_next (d.value i) (by omega)
  have hvalue := h.value_index (s.next (d.value i))
  rw [hnext, hindex] at hvalue
  exact hvalue (by omega) (by omega) (h.nanos_next _ (h.nanos_value i))

include h hd in
theorem value_add (k : Nat) (hk : d.lowest + k ≤ last) :
    d.value (d.lowest + k) = s.next^[k] s.first := by
  induction k with
  | zero =>
    rw [Int.natCast_zero, Int.add_zero]
    exact h.value_lowest hd
  | succ k ih =>
    have hstep := h.value_succ hd (i := d.lowest + k) (by omega) (by omega)
    rw [Function.iterate_succ_apply', ← ih (by omega), ← hstep, Int.natCast_succ, Int.add_assoc]

include h hd in
theorem counts : d.Counts s last where
  index_value := hd.lawful.index_value
  value_index_iff := h.value_index_iff hd
  isStep_iff := h.isStep_iff
  before_value _ _ hi hij hj := h.before_value hd hi hij hj
  le_iff v w := by
    rw [h.le_iff, h.before_iff]
    omega
  value_add := h.value_add hd
  value_last := h.value_last hd

end Numbering

theorem integers_numbering : integers.Numbering .integers Value.maxInt where
  index_first := rfl
  index_last := rfl
  index_next n hn := by
    have hlow := n.le_toInt
    simp only [integers, Succession.integers, Value.maxInt] at hn ⊢
    rw [Int64.toInt_add, Int64.toInt_one]
    exact Int.bmod_eq_of_le (by omega) (by omega)
  nanos_first := rfl
  nanos_last := rfl
  nanos_next _ _ := rfl
  nanos_value _ := rfl
  before_iff m n := by simp [integers, Succession.integers, Int64.lt_iff_toInt_lt]
  le_iff m n := by
    simp only [integers, Succession.integers, decide_eq_true_eq]
    omega
  value_index n hlow hlast _ := by
    simp only [integers] at hlow hlast ⊢
    rw [clamp_eq_self hlow hlast, Int64.ofInt_toInt]

theorem lengths_numbering : lengths.Numbering .lengths 18446744073709551615 where
  index_first := rfl
  index_last := rfl
  index_next n hn := by
    simp only [lengths, Succession.lengths] at hn ⊢
    rw [UInt64.toNat_add, UInt64.toNat_one]
    omega
  nanos_first := rfl
  nanos_last := rfl
  nanos_next _ _ := rfl
  nanos_value _ := rfl
  before_iff m n := by simp [lengths, Succession.lengths, UInt64.lt_iff_toNat_lt]
  le_iff m n := by
    simp only [lengths, Succession.lengths, decide_eq_true_eq]
    omega
  value_index n hlow hlast _ := by
    simp only [lengths] at hlow hlast ⊢
    rw [clamp_eq_self hlow hlast, Int.toNat_natCast, UInt64.ofNat_toNat]

theorem dates_numbering : dates.Numbering .dates 3652059 where
  index_first := rfl
  index_last := rfl
  index_next d _ := d.number_next
  nanos_first := rfl
  nanos_last := rfl
  nanos_next _ _ := rfl
  nanos_value _ := rfl
  before_iff d e := by simp [dates, Succession.dates, Date.before_iff]
  le_iff d e := by
    simp only [dates, Succession.dates, decide_eq_true_eq]
    omega
  value_index d hlow hlast _ := by
    simp only [dates] at hlow hlast ⊢
    rw [clamp_eq_self hlow hlast, Date.ofNumber_number]

theorem times_numbering : times.Numbering .times 86399 where
  index_first := rfl
  index_last := rfl
  index_next t ht := by
    have hnonneg := t.number_nonneg
    simp only [times, Succession.times] at ht ⊢
    rw [t.number_next]
    omega
  nanos_first := rfl
  nanos_last := rfl
  nanos_next t _ := t.nano_next
  nanos_value _ := rfl
  before_iff := Time.before_iff
  le_iff := Time.le_iff
  value_index t _ _ hnanos := t.value_number.trans (Time.counted_eq_self hnanos)

theorem moments_numbering : moments.Numbering .moments 253402300799 where
  index_first := rfl
  index_last := rfl
  index_next m _ := m.number_next
  nanos_first := rfl
  nanos_last := rfl
  nanos_next m _ := m.time.nano_next
  nanos_value _ := rfl
  before_iff := Moment.before_iff
  le_iff := Moment.le_iff
  value_index m hlow hlast hnanos := by
    simp only [moments] at hlow hlast ⊢
    rw [clamp_eq_self hlow hlast, Moment.ofNumber_number, Time.counted_eq_self hnanos]

end StepDomain

/-- In each domain, index and value are inverse to each other and keep the order: between the limits,
for lengths up to the greatest word, and for values without a fraction of a second. Days count from the
first of January of year 1, and seconds from the first of January 1970. -/
theorem domains_count_their_steps :
    StepDomain.integers.Counts .integers StepDomain.integers.greatest ∧
    StepDomain.lengths.Counts .lengths 18446744073709551615 ∧
    StepDomain.dates.Counts .dates StepDomain.dates.greatest ∧
    StepDomain.times.Counts .times StepDomain.times.greatest ∧
    StepDomain.moments.Counts .moments StepDomain.moments.greatest ∧
    StepDomain.dates.index ⟨1, 1, 1, by decide⟩ = 1 ∧
    StepDomain.moments.index ⟨⟨1970, 1, 1, by decide⟩, .midnight⟩ = 0 :=
  ⟨StepDomain.integers_numbering.counts .integers, StepDomain.lengths_numbering.counts .lengths,
    StepDomain.dates_numbering.counts .dates, StepDomain.times_numbering.counts .times,
    StepDomain.moments_numbering.counts .moments, rfl, rfl⟩

/-- The last second before the timestamps begin, and a leap day. -/
example :
    StepDomain.moments.value (-1) = ⟨⟨1969, 12, 31, by decide⟩, ⟨23, 59, 59, 0, by decide⟩⟩ ∧
      (⟨2000, 2, 28, by decide⟩ : Date).next = ⟨2000, 2, 29, by decide⟩ := by
  decide

end TestDesign
