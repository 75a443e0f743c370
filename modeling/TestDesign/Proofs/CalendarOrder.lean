import TestDesign.Proofs.CalendarNumbers

/-!
# TestDesign.Proofs.CalendarOrder

The calendar without numbers: which date, time or moment comes before another one, field by field, and
which one comes next, with its carries from day to month and year, and from second to minute, hour and
day. Numbers count these steps (`number_next`) and order values as the fields do (`before_iff`).
-/

namespace TestDesign.Calendar

theorem one_le_monthLength (leap : Bool) {m : Nat} (h₀ : 1 ≤ m) (h₁ : m ≤ 12) :
    1 ≤ monthLength leap m := by
  have hall : ∀ (leap : Bool) (m : Fin 13), 1 ≤ m.val → 1 ≤ monthLength leap m := by decide
  exact hall leap ⟨m, by omega⟩ h₀

theorem daysBeforeMonth_mono (leap : Bool) {m n : Nat} (h : m ≤ n) :
    daysBeforeMonth leap m ≤ daysBeforeMonth leap n := by
  induction h with
  | refl => exact Nat.le_refl _
  | step _ ih => exact Nat.le_trans ih (Nat.le_add_right _ _)

theorem daysBeforeMonth_december (leap : Bool) :
    daysBeforeMonth leap 12 + monthLength leap 12 = yearLength leap := by
  revert leap
  decide

namespace Date

/-- The day after a date. -/
def next (d : Date) : Date :=
  if h : d.day < monthLength (isLeap d.year) d.month then
    ⟨d.year, d.month, d.day + 1, by omega⟩
  else if h : d.month < 12 then
    ⟨d.year, d.month + 1, 1, Nat.le_refl 1, one_le_monthLength _ (by omega) (by omega)⟩
  else ⟨d.year + 1, 1, 1, Nat.le_refl 1, one_le_monthLength _ (by omega) (by omega)⟩

/-- Earlier by year, then by month, then by day. -/
def Before (a b : Date) : Prop :=
  a.year < b.year ∨
    a.year = b.year ∧ (a.month < b.month ∨ a.month = b.month ∧ a.day < b.day)

theorem number_next (d : Date) : d.next.number = d.number + 1 := by
  have hday := d.valid
  have hmonth := d.month_mem
  unfold next
  split
  · simp only [number]
    omega
  · have hlast : d.day = monthLength (isLeap d.year) d.month := by omega
    split
    · simp only [number, daysBeforeMonth]
      omega
    · have hdecember : d.month = 12 := by omega
      have hyear := daysBeforeMonth_december (isLeap d.year)
      have hsucc := daysBeforeYear_succ d.year
      have hjanuary : daysBeforeMonth (isLeap (d.year + 1)) 1 = 0 := rfl
      rw [hdecember] at hlast
      simp only [number, hdecember, hjanuary]
      omega

theorem number_inj {a b : Date} : a.number = b.number ↔ a = b := by
  constructor
  · intro h
    rw [← ofNumber_number a, ← ofNumber_number b, h]
  · rintro rfl
    rfl

theorem before_trichotomy (a b : Date) : a.Before b ∨ a = b ∨ b.Before a := by
  rcases a with ⟨year, month, day, ha⟩
  rcases b with ⟨year', month', day', hb⟩
  simp only [Before, mk.injEq]
  omega

theorem number_lt_of_before {a b : Date} (h : a.Before b) : a.number < b.number := by
  have ha := a.valid
  have hb := b.valid
  rcases h with hyear | ⟨hyear, hmonth | ⟨hmonth, hday⟩⟩
  · have hend := a.number_le_daysBeforeYear_iff b.year
    have hstart := b.number_le_daysBeforeYear_iff b.year
    omega
  · have hmono := daysBeforeMonth_mono (isLeap a.year) (Nat.succ_le_of_lt hmonth)
    simp only [daysBeforeMonth] at hmono
    simp only [number, ← hyear]
    omega
  · simp only [number, ← hyear, ← hmonth]
    omega

theorem before_iff (a b : Date) : a.Before b ↔ a.number < b.number := by
  -- The order of dates is total, so it is enough that numbers follow it.
  refine ⟨number_lt_of_before, fun hlt => ?_⟩
  rcases before_trichotomy a b with h | rfl | h
  · exact h
  · omega
  · have hgt := number_lt_of_before h
    omega

end Date

namespace Time

def midnight : Time := ⟨0, 0, 0, 0, by decide⟩

/-- The whole second after a time, around the clock. -/
def next (t : Time) : Time :=
  have h := t.valid
  if _ : t.second < 59 then ⟨t.hour, t.minute, t.second + 1, 0, by omega⟩
  else if _ : t.minute < 59 then ⟨t.hour, t.minute + 1, 0, 0, by omega⟩
  else if _ : t.hour < 23 then ⟨t.hour + 1, 0, 0, 0, by omega⟩
  else midnight

/-- Earlier by hour, then by minute, by second and by nanosecond. -/
def Before (a b : Time) : Prop :=
  a.hour < b.hour ∨
    a.hour = b.hour ∧ (a.minute < b.minute ∨
      a.minute = b.minute ∧ (a.second < b.second ∨ a.second = b.second ∧ a.nano < b.nano))

theorem number_midnight : midnight.number = 0 := rfl

theorem number_next (t : Time) : t.next.number = (t.number + 1) % 86400 := by
  have hvalid := t.valid
  unfold next
  split
  · simp only [number]
    omega
  · split
    · simp only [number]
      omega
    · split
      · simp only [number]
        omega
      · simp only [number, midnight]
        omega

theorem nano_next (t : Time) : t.next.nano = 0 := by
  unfold next
  split
  · rfl
  · split
    · rfl
    · split <;> rfl

theorem next_eq_midnight_iff (t : Time) : t.next = midnight ↔ t.number = 86399 := by
  have hlt := t.number_lt
  have hnonneg := t.number_nonneg
  constructor
  · intro h
    have hnumber := t.number_next
    rw [h, number_midnight] at hnumber
    omega
  · intro h
    have hvalid := t.valid
    unfold number at h
    unfold next
    rw [dif_neg (by omega), dif_neg (by omega), dif_neg (by omega)]

theorem before_iff (a b : Time) :
    a.Before b ↔ a.number < b.number ∨ a.number = b.number ∧ a.nano < b.nano := by
  have ha := a.valid
  have hb := b.valid
  unfold Before number
  omega

end Time

namespace Moment

/-- The whole second after a moment. A day ends where its clock starts again. -/
def next (m : Moment) : Moment :=
  ⟨if m.time.next = .midnight then m.date.next else m.date, m.time.next⟩

/-- Earlier by date, then by time. -/
def Before (a b : Moment) : Prop :=
  a.date.Before b.date ∨ a.date = b.date ∧ a.time.Before b.time

theorem number_next (m : Moment) : m.next.number = m.number + 1 := by
  have hlt := m.time.number_lt
  have hnonneg := m.time.number_nonneg
  have htime := m.time.number_next
  simp only [next, number]
  split
  · rename_i h
    rw [Time.next_eq_midnight_iff] at h
    rw [Date.number_next]
    omega
  · rename_i h
    rw [Time.next_eq_midnight_iff] at h
    omega

theorem before_iff (a b : Moment) :
    a.Before b ↔ a.number < b.number ∨ a.number = b.number ∧ a.time.nano < b.time.nano := by
  have ha₀ := a.time.number_nonneg
  have ha₁ := a.time.number_lt
  have hb₀ := b.time.number_nonneg
  have hb₁ := b.time.number_lt
  simp only [Before, Date.before_iff, Time.before_iff, ← Date.number_inj, number]
  omega

end Moment

end TestDesign.Calendar
