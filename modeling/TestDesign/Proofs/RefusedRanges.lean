import TestDesign.Proofs.CalendarBounds

/-!
# TestDesign.Proofs.RefusedRanges

When a range with two declared bounds is refused: what counts of the bounds is not in order.

Integers and lengths count as they are, so their bounds are refused exactly when the minimum is
greater than the maximum (`refused_iff`). Of a date, a time or a moment counts what lies in the years
1 to 9999 and in whole seconds, so bounds in the wrong order may still have a range
(`range_of_unordered_bounds`).
-/

namespace TestDesign

open Calendar

/-- There is no range between the bounds, and the reason is their order. -/
def Refused {α : Type} (d : StepDomain α) (min max : α) : Prop :=
  ∃ lo hi, StepRange.of d (some min) (some max) = .error (.invalidRange lo hi)

section Domain

variable {α : Type} {d : StepDomain α} {a b : α}

theorem refused_iff_index :
    Refused d a b ↔
      StepDomain.clamp d.lowest (StepRange.topFor d (some (d.index b))) (d.index b) <
        StepDomain.clamp d.lowest (StepRange.topFor d (some (d.index b))) (d.index a) := by
  rw [← Int.not_le]
  constructor
  · rintro ⟨lo, hi, hrefused⟩ hle
    simp [StepRange.of, StepRange.boundFor, hle] at hrefused
  · intro hle
    exact ⟨_, _, dif_neg hle⟩

theorem refused_iff_clamp (hclosed : d.isOpenAbove = false) :
    Refused d a b ↔
      StepDomain.clamp d.lowest d.greatest (d.index b) <
        StepDomain.clamp d.lowest d.greatest (d.index a) := by
  simp [refused_iff_index, StepRange.topFor, hclosed]

end Domain

theorem refused_integers_iff (a b : Int64) : Refused .integers a b ↔ b < a := by
  have hself (n : Int64) : StepDomain.clamp Value.minInt Value.maxInt n.toInt = n.toInt :=
    StepDomain.clamp_eq_self n.le_toInt (Int.lt_add_one_iff.1 n.toInt_lt)
  rw [refused_iff_clamp rfl, Int64.lt_iff_toInt_lt, ← hself a, ← hself b]
  rfl

/-- A maximum above the domain makes room for itself, and for nothing greater. -/
theorem refused_lengths_iff (a b : UInt64) : Refused .lengths a b ↔ b < a := by
  rw [refused_iff_index, StepRange.topFor_lengths, UInt64.lt_iff_toNat_lt]
  simp only [StepDomain.index_lengths, StepDomain.lowest_lengths, StepDomain.clamp]
  grind

/-- The calendar values are compared as far as they count. -/
theorem Stepped.Counting.refused_iff {t : DataType} {α : Type} {d : StepDomain α}
    {S : Stepped t d} (K : S.Counting) (a b : α) :
    Refused d a b ↔ (S.value b).counted.Precedes (S.value a).counted := by
  have ha := StepDomain.clamp_mem d.lowest_le_greatest (d.index a)
  have hb := StepDomain.clamp_mem d.lowest_le_greatest (d.index b)
  rw [refused_iff_clamp S.closed, ← K.value_index, ← K.value_index, ← K.value_clamp (d.index a),
    ← K.value_clamp (d.index b)]
  constructor
  · intro hlt
    refine S.precedes_of_le (Bool.eq_false_iff.2 fun hle => ?_)
    have hindex := S.lawful.index_le_index _ _ hle
    rw [S.lawful.index_value _ ha.1 ha.2, S.lawful.index_value _ hb.1 hb.2] at hindex
    omega
  · intro hprecedes
    refine Int.not_le.1 fun hle => ?_
    exact K.not_precedes_of_le (S.lawful.le_value _ _ ha.1 hle hb.2) hprecedes

/-- Two declared bounds of integers or lengths are refused exactly when the minimum is greater than
the maximum, and those of the calendar domains exactly when this is so of what counts of them. -/
theorem range_refused_iff :
    (∀ a b : Int64, Refused .integers a b ↔ b < a) ∧
    (∀ a b : UInt64, Refused .lengths a b ↔ b < a) ∧
    (∀ a b : Date, Refused .dates a b ↔ (Value.date b).counted.Precedes (Value.date a).counted) ∧
    (∀ a b : Time, Refused .times a b ↔ (Value.time b).counted.Precedes (Value.time a).counted) ∧
    ∀ a b : Moment, Refused .moments a b ↔
      (Value.dateTime b).counted.Precedes (Value.dateTime a).counted :=
  ⟨refused_integers_iff, refused_lengths_iff, Stepped.dates_counting.refused_iff,
    Stepped.times_counting.refused_iff, Stepped.moments_counting.refused_iff⟩

/-- A date a thousand years after another one, both after the year 9999, and a time half a second
after another one: as minimum and maximum they are in the wrong order, and still have a range. -/
theorem range_of_unordered_bounds :
    ((Value.date ⟨11000, 1, 1, by decide⟩).Precedes (.date ⟨12000, 1, 1, by decide⟩) ∧
      ¬ Refused .dates ⟨12000, 1, 1, by decide⟩ ⟨11000, 1, 1, by decide⟩) ∧
    (Value.time ⟨12, 0, 0, 0, by decide⟩).Precedes (.time ⟨12, 0, 0, 500000000, by decide⟩) ∧
      ¬ Refused .times ⟨12, 0, 0, 500000000, by decide⟩ ⟨12, 0, 0, 0, by decide⟩ := by
  refine ⟨⟨?_, ?_⟩, .inr (by decide), ?_⟩
  · show Date.number _ < Date.number _
    decide
  · rintro ⟨lo, hi, h⟩
    cases h
  · rintro ⟨lo, hi, h⟩
    cases h

end TestDesign
