import TestDesign.Calendar.Time

/-!
# TestDesign.Proofs.CalendarNumbers

Dates, times and moments found by their numbers have these numbers (`number_ofNumber`), so an
arithmetic on numbers is an arithmetic on days and seconds. The order of times and moments is
that of their numbers, with nanoseconds deciding between equal ones. A date is the one that its number
finds (`Date.ofNumber_number`).
-/

namespace TestDesign.Calendar

/-- Month and day put together again are the day of the year. -/
theorem daysBeforeMonth_monthAndDay (leap : Bool) (d : Fin 367)
    (h : 1 ≤ d.val ∧ d.val ≤ yearLength leap) :
    daysBeforeMonth leap (monthAndDay leap d).1 + (monthAndDay leap d).2 = d := by
  revert leap d
  decide +kernel

theorem Date.number_ofNumber (n : Int) : (Date.ofNumber n).number = n := by
  obtain ⟨hlo, hhi⟩ := yearOf_bounds n
  have hsucc := daysBeforeYear_succ (yearOf n)
  have hlen := yearLength_le (isLeap (yearOf n))
  have hday := daysBeforeMonth_monthAndDay (isLeap (yearOf n))
    ⟨(n - daysBeforeYear (yearOf n)).toNat, by omega⟩ (by simp only; omega)
  simp only at hday
  simp only [Date.number, Date.ofNumber]
  omega

theorem daysBeforeYear_mono {y z : Int} (h : y ≤ z) : daysBeforeYear y ≤ daysBeforeYear z := by
  unfold daysBeforeYear
  omega

theorem Date.month_mem (d : Date) : 1 ≤ d.month ∧ d.month ≤ 12 := by
  have hlength : 1 ≤ monthLength (isLeap d.year) d.month := Nat.le_trans d.valid.1 d.valid.2
  unfold monthLength at hlength
  split at hlength <;> omega

/-- A month ends within its year. -/
theorem daysBeforeMonth_add_le (leap : Bool) (m : Fin 13) :
    daysBeforeMonth leap m + monthLength leap m ≤ yearLength leap := by
  revert leap m
  decide

theorem Date.number_le_daysBeforeYear_iff (d : Date) (year : Int) :
    d.number ≤ daysBeforeYear year ↔ d.year < year := by
  have hday := d.valid
  have hmonth : d.month < 13 := Nat.lt_succ_of_le d.month_mem.2
  have hend := daysBeforeMonth_add_le (isLeap d.year) ⟨d.month, hmonth⟩
  have hsucc := daysBeforeYear_succ d.year
  simp only at hend
  unfold number
  rcases Int.lt_or_le d.year year with hlt | hle
  · have hmono := daysBeforeYear_mono (Int.add_one_le_of_lt hlt)
    omega
  · have hmono := daysBeforeYear_mono hle
    omega

theorem monthAndDay_daysBeforeMonth (leap : Bool) (m : Fin 13) (d : Fin 32)
    (h : 1 ≤ d.val ∧ d.val ≤ monthLength leap m) :
    monthAndDay leap (daysBeforeMonth leap m + d) = (m.val, d.val) := by
  revert leap m d
  decide +kernel

theorem monthLength_lt (leap : Bool) (m : Nat) : monthLength leap m < 32 := by
  unfold monthLength
  split
  case h_2 => split <;> omega
  all_goals omega

/-- A date is found by its number. -/
theorem Date.ofNumber_number (d : Date) : ofNumber d.number = d := by
  have hday := d.valid
  have hmonth : d.month < 13 := Nat.lt_succ_of_le d.month_mem.2
  have hend := daysBeforeMonth_add_le (isLeap d.year) ⟨d.month, hmonth⟩
  have hlength := monthLength_lt (isLeap d.year) d.month
  have hsucc := daysBeforeYear_succ d.year
  have hsplit := monthAndDay_daysBeforeMonth (isLeap d.year) ⟨d.month, hmonth⟩
    ⟨d.day, Nat.lt_of_le_of_lt hday.2 hlength⟩ hday
  simp only at hend hsplit
  have hyear : yearOf d.number = d.year := by
    have hbounds := yearOf_bounds d.number
    have hlt := d.number_le_daysBeforeYear_iff (yearOf d.number)
    have hle := d.number_le_daysBeforeYear_iff (yearOf d.number + 1)
    omega
  have hrest : (d.number - daysBeforeYear d.year).toNat =
      daysBeforeMonth (isLeap d.year) d.month + d.day := by
    unfold number
    omega
  rcases d with ⟨year, month, day, valid⟩
  simp only [ofNumber, Date.mk.injEq]
  simp only at hyear hrest hsplit
  rw [hyear, hrest, hsplit]
  exact ⟨rfl, rfl, rfl⟩

namespace Time

theorem number_nonneg (t : Time) : 0 ≤ t.number := by
  unfold number
  omega

theorem number_lt (t : Time) : t.number < 86400 := by
  have h := t.valid
  unfold number
  omega

theorem number_ofNumber {n : Int} (h₀ : 0 ≤ n) (h₁ : n < 86400) : (ofNumber n).number = n := by
  simp only [number, ofNumber]
  omega

theorem le_iff (a b : Time) :
    a.le b = true ↔ a.number < b.number ∨ a.number = b.number ∧ a.nano ≤ b.nano := by
  simp [le]

end Time

namespace Moment

theorem number_ofNumber (n : Int) : (ofNumber n).number = n := by
  have ht : (Time.ofNumber n).number = n % 86400 := by
    simp only [Time.number, Time.ofNumber]
    omega
  simp only [number, ofNumber, Date.number_ofNumber, ht]
  omega

theorem le_iff (a b : Moment) :
    a.le b = true ↔ a.number < b.number ∨ a.number = b.number ∧ a.time.nano ≤ b.time.nano := by
  have ha₀ := a.time.number_nonneg
  have ha₁ := a.time.number_lt
  have hb₀ := b.time.number_nonneg
  have hb₁ := b.time.number_lt
  simp only [le, Bool.or_eq_true, Bool.and_eq_true, decide_eq_true_eq, Time.le_iff, number]
  omega

end Moment

end TestDesign.Calendar
