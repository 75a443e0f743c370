import TestDesign.Proofs.CaseOutcomes
import TestDesign.Proofs.IntegerCases

/-!
# TestDesign.Proofs.DeclaredIntegers

Integers of the cases that are not about a boundary. An element declares its value or its accepted
values without regard to its bounds, which the check of the constraints does not compare with them, and
the cases hand them out as they stand. A drawn integer keeps the bounds, so a declared one is the only
integer that can break them.
-/

namespace TestDesign

open TestDesign.Random

theorem withinBounds_value {lo hi : Option Int64} {r : StepRange StepDomain.integers} {i : Int}
    (hr : StepRange.of .integers lo hi = .ok r) (hmem : r.min ≤ i ∧ i ≤ r.max) :
    WithinBounds lo hi (StepDomain.integers.value i) := by
  have hlow : Value.minInt ≤ r.min := r.lowest_le_min
  have htop : r.top = Value.maxInt := Stepped.integers.top_eq hr
  have hmax := r.max_le_top
  exact (index_mem_iff hr (by omega) (by omega)).1 hmem

variable {c : Constraints} {case : DataCase} {v : Value}

/-- The value is the declared one or one of the accepted ones. -/
def Constraints.Declares (c : Constraints) (v : Value) : Prop := c.value = some v ∨ v ∈ c.accepted

theorem Constraints.isOf_of_declares {e : Element} (h : c.ReadFrom e) (hv : c.Declares v) :
    v.IsOf c.dataType := by
  rcases hv with hvalue | hlisted
  · exact isOf_of_typed? h.value hvalue
  · exact isOf_of_typedAll h.accepted v hlisted

theorem exists_int_of_declares {e : Element} (h : c.ReadFrom e) (ht : c.dataType = .integer)
    (hv : c.Declares v) : ∃ n, v = .int n :=
  Stepped.integers.exists_value (ht ▸ Constraints.isOf_of_declares h hv)

theorem Constraints.verdict_setOther_ne_valid (c : Constraints) : c.verdict .setOther ≠ .valid := by
  simp only [verdict, verdictIf]
  split <;> decide

namespace Generator

theorem eq_some_of_orIncompatible {x : Option Value} (h : orIncompatible case c x = .ok v) :
    x = some v := by
  cases x with
  | none => cases h
  | some w =>
    cases h
    rfl

/-- A valid set case and a computed case draw nothing but declared values. -/
theorem always_declared (g : Generator) (hcase : case.family = .set ∨ case.family = .computed)
    (hv : c.verdict case = .valid) :
    Draw.Always (g.generate case c) fun x => ∀ v, x = .ok v → c.Declares v := by
  unfold generate
  rw [if_neg (by rw [hv]; decide)]
  cases case with
  | value | length | formatValid | formatInvalid | filled | notFilled =>
    simp [DataCase.family] at hcase
  | setFirst =>
    refine Draw.always_pure fun v h => .inr ?_
    exact List.mem_of_head? (eq_some_of_orIncompatible h)
  | setRandom =>
    refine Draw.always_bind (Draw.always_choose c.accepted) fun x hx => ?_
    refine Draw.always_pure fun v h => .inr ?_
    exact hx v (eq_some_of_orIncompatible h)
  | setLast =>
    refine Draw.always_pure fun v h => .inr ?_
    exact List.mem_of_getLast? (eq_some_of_orIncompatible h)
  | setOther => exact absurd hv c.verdict_setOther_ne_valid
  | computed =>
    simp only [compatible]
    split
    · rename_i w hvalue
      refine Draw.always_pure fun v h => .inl ?_
      cases h
      exact hvalue
    · refine Draw.always_pure fun v h => ?_
      cases h

end Generator

/-- A valid set, required or computed case gives an integer within the bounds of its element, unless
the element declares the integer itself. Only a computed value that is not declared is missing. -/
theorem integer_within_bounds_or_declared {e : Element} (h : Constraints.ofElement e = .ok c)
    (ht : c.dataType = .integer)
    (hcase : case.family = .set ∨ case.family = .required ∨ case.family = .computed)
    (hfilled : case ≠ .notFilled) (hv : c.verdict case = .valid) :
    ∃ lo hi : Option Int64, c.minValue = lo.map .int ∧ c.maxValue = hi.map .int ∧
      ∀ g : Generator, Draw.Always (g.generate case c) fun x =>
        (∃ n, x = .ok (.int n) ∧ (WithinBounds lo hi n ∨ c.Declares (.int n))) ∨
          case = .computed ∧ c.value = none ∧ x = .error (.missingValue .computed) := by
  obtain ⟨hread, hc⟩ := Constraints.ofElement_eq_ok h
  obtain ⟨lo, hi, hb⟩ := Stepped.integers.exists_bounds hread ht
  obtain ⟨r, hr⟩ := Stepped.integers.exists_range hb hc
  refine ⟨lo, hi, hb.minValue, hb.maxValue, ?_⟩
  intro g
  by_cases hfam : case.family = .required
  · obtain rfl : case = .filled := by
      cases case <;> first | rfl | contradiction
    obtain ⟨hformat, -, -⟩ := Constraints.check_eq_ok hc
    have hformat := Constraints.format_eq_none hformat (by rw [ht]; decide)
    refine (Stepped.integers.always_filled_from g hb hr hformat).mono ?_
    rintro x ⟨v, rfl, hvalue | hlisted | ⟨i, rfl, hi⟩⟩
    · obtain ⟨n, rfl⟩ := exists_int_of_declares hread ht (.inl hvalue)
      exact .inl ⟨n, rfl, .inr (.inl hvalue)⟩
    · obtain ⟨n, rfl⟩ := exists_int_of_declares hread ht (.inr hlisted)
      exact .inl ⟨n, rfl, .inr (.inr hlisted)⟩
    · exact .inl ⟨_, rfl, .inl (withinBounds_value hr hi)⟩
  · have hfam : case.family = .set ∨ case.family = .computed := by
      simpa [hfam] using hcase
    refine ((g.always_generate hread hc case).and (g.always_declared hfam hv)).mono ?_
    rintro x ⟨hx, hdeclared⟩
    rw [if_neg (by rw [hv]; decide)] at hx
    cases hx with
    | value =>
      have hd := hdeclared _ rfl
      obtain ⟨n, rfl⟩ := exists_int_of_declares hread ht hd
      exact .inl ⟨n, rfl, .inr hd⟩
    | empty => exact absurd rfl hfilled
    | noMismatch => rcases hfam with hfam | hfam <;> cases hfam
    | noOutsider => exact absurd hv (Constraints.verdict_setOther_ne_valid c)
    | noComputed hnone => exact .inr ⟨rfl, hnone, rfl⟩

/-- A grade from 1 to 6, among which 0 is listed for whoever was absent. -/
def grade : Element where
  name := "Grade"
  properties := [
    { kind := .value, value := .list [.int 3, .int 0] },
    { kind := .minValue, value := .int 1 },
    { kind := .maxValue, value := .int 6 }]

def gradeConstraints : Constraints where
  dataType := .integer
  accepted := [.int 3, .int 0]
  minValue := some (.int 1)
  maxValue := some (.int 6)

/-- The last grade is drawn because it is listed. -/
theorem grade_within_bounds_or_declared :
    Constraints.ofElement grade = .ok gradeConstraints ∧
      gradeConstraints.verdict .setLast = .valid ∧
      Draw.Always (({} : Generator).generate .setLast gradeConstraints) fun x =>
        ∃ n, x = .ok (.int n) ∧
          (WithinBounds (some 1) (some 6) n ∨ gradeConstraints.Declares (.int n)) := by
  have hc : Constraints.ofElement grade = .ok gradeConstraints := rfl
  have hv : gradeConstraints.verdict .setLast = .valid := rfl
  obtain ⟨lo, hi, hlo, hhi, h⟩ :=
    integer_within_bounds_or_declared hc rfl (.inl rfl) (by decide) hv
  obtain rfl : lo = some 1 := by
    cases lo <;> cases hlo
    rfl
  obtain rfl : hi = some 6 := by
    cases hi <;> cases hhi
    rfl
  refine ⟨hc, hv, (h {}).mono ?_⟩
  rintro x (hx | ⟨hcomputed, -⟩)
  · exact hx
  · cases hcomputed

/-- An age of at least 10 that is declared to be 5. -/
def age : Element where
  name := "Age"
  properties := [{ kind := .value, value := .int 5 }, { kind := .minValue, value := .int 10 }]

def ageConstraints : Constraints where
  dataType := .integer
  value := some (.int 5)
  minValue := some (.int 10)

/-- The element is accepted, and filling it is called valid and breaks its minimum. -/
theorem filled_age_breaks_minimum :
    Constraints.ofElement age = .ok ageConstraints ∧
      ageConstraints.verdict .filled = .valid ∧
      ageConstraints.minValue = some (.int 10) ∧
      ∀ g : Generator, Draw.Always (g.generate .filled ageConstraints) fun x =>
        ∃ n, x = .ok (.int n) ∧ ¬ WithinBounds (some 10) none n := by
  refine ⟨rfl, rfl, rfl, ?_⟩
  intro g
  have hdeclared : g.generate .filled ageConstraints = return .ok (.int 5) := rfl
  rw [hdeclared]
  refine Draw.always_pure ⟨5, rfl, ?_⟩
  intro hwithin
  exact absurd (hwithin.1 10 rfl) (by decide)

end TestDesign
