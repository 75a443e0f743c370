import TestDesign.Proofs.Reading

/-!
# TestDesign.Proofs.IntegerCases

Elements that take integers: the verdict on a boundary case and the integer drawn for it agree,
for all bounds that an integer of 64 bits can be. No bound lies outside the domain of integers, so
an index lies in the range exactly when its integer keeps the declared bounds (`index_mem_iff`).
-/

namespace TestDesign

open TestDesign.Random

/-- The integer lies within the bounds; a bound that is not declared is no constraint. -/
def WithinBounds (lo hi : Option Int64) (n : Int64) : Prop :=
  (∀ m ∈ lo, m ≤ n) ∧ (∀ m ∈ hi, n ≤ m)

/-- The integer lies below the declared minimum or above the declared maximum. -/
def OutsideBounds (lo hi : Option Int64) (n : Int64) : Prop :=
  (∃ m ∈ lo, n < m) ∨ (∃ m ∈ hi, m < n)

theorem outsideBounds_iff (lo hi : Option Int64) (n : Int64) :
    OutsideBounds lo hi n ↔ ¬ WithinBounds lo hi n := by
  unfold OutsideBounds WithinBounds
  simp only [Int64.le_iff_toInt_le, Int64.lt_iff_toInt_lt, Option.mem_def]
  cases lo with
  | none =>
    cases hi with
    | none => simp
    | some M => simp
  | some m =>
    cases hi with
    | none => simp
    | some M =>
      simp only [Option.some.injEq, exists_eq_left', forall_eq']
      omega

section Range

variable {lo hi : Option Int64} {r : StepRange StepDomain.integers} {i : Int}

theorem index_mem_iff (hr : StepRange.of .integers lo hi = .ok r) (h₀ : Value.minInt ≤ i)
    (h₁ : i ≤ Value.maxInt) :
    r.min ≤ i ∧ i ≤ r.max ↔ WithinBounds lo hi (StepDomain.integers.value i) := by
  rw [Stepped.min_integers hr, Stepped.max_integers hr]
  simp only [WithinBounds, Int64.le_iff_toInt_le, StepDomain.toInt_integers_value h₀ h₁]
  cases lo <;> cases hi <;> simp [h₀, h₁]

end Range

/-- The integer drawn at a boundary keeps the declared bounds exactly when the boundary is valid
and breaks one of them exactly when it is invalid. Filling an element that declares nothing but
bounds keeps them. -/
theorem integer_keeps_bounds_iff_valid {c : Constraints} {lo hi : Option Int64}
    (ht : c.dataType = .integer) (hlo : c.minValue = lo.map .int) (hhi : c.maxValue = hi.map .int)
    (hc : c.check = .ok ()) (g : Generator) :
    (∀ b : Boundary, c.verdict (.value b) ≠ .incompatible →
      Draw.Always (g.generate (.value b) c) fun x => ∃ n, x = .ok (.int n) ∧
        (c.verdict (.value b) = .valid ↔ WithinBounds lo hi n) ∧
        (c.verdict (.value b) = .invalid ↔ OutsideBounds lo hi n)) ∧
    (c.value = none → c.accepted = [] →
      Draw.Always (g.generate .filled c) fun x => ∃ n, x = .ok (.int n) ∧
        WithinBounds lo hi n) := by
  have hb : Stepped.integers.Bounds c lo hi := ⟨ht, hlo, hhi⟩
  obtain ⟨r, hr⟩ := Stepped.integers.exists_range hb hc
  have htop := Stepped.integers.top_eq hr
  have hlowest := r.lowest_le_min
  have hgreatest : r.max ≤ Value.maxInt := by
    rw [← show StepDomain.integers.greatest = Value.maxInt from rfl, ← htop]
    exact r.max_le_top
  refine ⟨fun b hv => ?_, fun hvalue haccepted => ?_⟩
  · refine (Stepped.integers.always_atBoundary g hb hr hv).mono ?_
    rintro x ⟨i, rfl, hi⟩
    have hmem := hi.mem StepDomain.integers_lawful (StepRange.greatest_le_top hr)
    have hiff := index_mem_iff hr hmem.1 (Int.le_trans hmem.2 (Int.le_of_eq htop))
    refine ⟨_, rfl, ?_⟩
    rw [outsideBounds_iff, ← hiff]
    cases hverdict : c.verdict (.value b) with
    | valid =>
      have hin := Stepped.integers.valid_places hb hr hverdict hi
      simp [hin]
    | invalid =>
      have hout := Stepped.integers.invalid_places hb hr hverdict hi
      simp
      omega
    | incompatible => exact absurd hverdict hv
  · obtain ⟨hformat, -, -⟩ := Constraints.check_eq_ok hc
    have hformat := Constraints.format_eq_none hformat (by rw [ht]; decide)
    refine (Stepped.integers.always_filled g hb hr hvalue haccepted hformat).mono ?_
    rintro x ⟨i, rfl, hi⟩
    have h₀ : Value.minInt ≤ i := Int.le_trans hlowest hi.1
    have h₁ : i ≤ Value.maxInt := Int.le_trans hi.2 hgreatest
    exact ⟨_, rfl, (index_mem_iff hr h₀ h₁).1 hi⟩

/-- The lowest integer is the only one allowed. -/
def onlyLowest : Constraints where
  dataType := .integer
  minValue := some (.int Int64.minValue)
  maxValue := some (.int Int64.minValue)

/-- Nothing lies below the lowest integer, so the case below the minimum is the minimum and valid;
the case above the maximum is invalid. -/
theorem onlyLowest_keeps_bounds :
    onlyLowest.check = .ok () ∧ onlyLowest.verdict (.value .randomBelowMin) = .valid ∧
      onlyLowest.verdict (.value .randomAboveMax) = .invalid ∧
      (Draw.Always (({} : Generator).generate (.value .randomAboveMax) onlyLowest) fun x =>
        ∃ n, x = .ok (.int n) ∧
          (onlyLowest.verdict (.value .randomAboveMax) = .valid ↔
            WithinBounds (some Int64.minValue) (some Int64.minValue) n) ∧
          (onlyLowest.verdict (.value .randomAboveMax) = .invalid ↔
            OutsideBounds (some Int64.minValue) (some Int64.minValue) n)) ∧
      Draw.Always (({} : Generator).generate .filled onlyLowest) fun x => ∃ n, x = .ok (.int n) ∧
        WithinBounds (some Int64.minValue) (some Int64.minValue) n := by
  have hc : onlyLowest.check = .ok () := rfl
  have hmin : onlyLowest.minValue = (some Int64.minValue).map .int := rfl
  have hmax : onlyLowest.maxValue = (some Int64.minValue).map .int := rfl
  have h := integer_keeps_bounds_iff_valid rfl hmin hmax hc {}
  exact ⟨hc, rfl, rfl, h.1 .randomAboveMax (by decide), h.2 rfl rfl⟩

end TestDesign
