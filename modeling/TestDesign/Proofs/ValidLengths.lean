import TestDesign.Proofs.InvalidCases

/-!
# TestDesign.Proofs.ValidLengths

Strings of valid length cases and the lengths that their element declares. A declared maximum is
always kept, however great it is, since the range grows with it (`max_lengths`). A declared minimum
is kept as well, unless it lies above the greatest length and no maximum makes room for it: then the
range has moved it down (`min_lengths`).
-/

namespace TestDesign

open TestDesign.Random

section Range

variable {lo hi : Option UInt64} {r : StepRange StepDomain.lengths}

theorem max_lengths {n : UInt64} (hr : StepRange.of .lengths lo (some n) = .ok r) :
    r.max = n.toNat := by
  obtain ⟨htop, -, hmax⟩ := StepRange.of_eq_ok hr
  rw [Option.map_some, StepRange.topFor_lengths] at htop
  simp only [Option.map_some, StepRange.boundFor, StepDomain.index_lengths,
    StepDomain.lowest_lengths] at hmax
  have hle : (n.toNat : Int) ≤ r.top := by
    split at htop <;> omega
  rw [hmax]
  exact StepDomain.clamp_eq_self (by omega) hle

theorem max_lengths_le (hr : StepRange.of .lengths lo hi = .ok r) :
    r.max ≤ 18446744073709551615 := by
  cases hi with
  | none =>
    have hmax := (StepRange.of_eq_ok hr).2.2
    simp only [Option.map_none, StepRange.boundFor, StepDomain.greatest_lengths] at hmax
    omega
  | some n =>
    have hn := n.toNat_lt
    rw [max_lengths hr]
    omega

/-- The minimum is the declared one, or the greatest length below a declared minimum that no declared
maximum makes room for. -/
theorem min_lengths {m : UInt64} (hr : StepRange.of .lengths (some m) hi = .ok r) :
    r.min = m.toNat ∨ hi = none ∧ 10000 < m.toNat ∧ r.min = 10000 ∧ r.max = 10000 := by
  obtain ⟨htop, hmin, hmax⟩ := StepRange.of_eq_ok hr
  have hle := r.min_le_max
  have hwide := StepRange.greatest_le_top hr
  rw [StepDomain.greatest_lengths] at hwide
  simp only [Option.map_some, StepRange.boundFor, StepDomain.index_lengths,
    StepDomain.lowest_lengths] at hmin
  by_cases hroom : (m.toNat : Int) ≤ r.top
  · left
    rw [hmin]
    exact StepDomain.clamp_eq_self (by omega) hroom
  · have hmoved : r.min = r.top := by
      rw [hmin]
      exact StepDomain.clamp_eq_upper (by omega) (by omega)
    cases hi with
    | none =>
      simp only [Option.map_none, StepRange.topFor, StepDomain.greatest_lengths] at htop
      simp only [Option.map_none, StepRange.boundFor, StepDomain.greatest_lengths] at hmax
      right
      refine ⟨rfl, ?_, ?_, ?_⟩ <;> omega
    | some n =>
      -- The top lies above a declared maximum, so a minimum at the top has no range.
      have hmax := max_lengths hr
      rw [Option.map_some, StepRange.topFor_lengths] at htop
      split at htop <;> omega

end Range

variable {c : Constraints} {b : Boundary}

/-- A string drawn for a valid length case has at most as many characters as the declared maximum
allows, and at least as many as the declared minimum demands. The only exception is a minimum above
10000 without a declared maximum, where the string has 10000 characters. -/
theorem valid_text_keeps_lengths (hv : c.verdict (.length b) = .valid) (g : Generator) :
    Draw.Always (g.generate (.length b) c) fun x => ∃ s, x = .ok (.text s) ∧
      (∀ n ∈ c.maxLength, s.length ≤ n.toNat) ∧
      ∀ m ∈ c.minLength, m.toNat ≤ s.length ∨
        c.maxLength = none ∧ 10000 < m.toNat ∧ s.length = 10000 := by
  have hcompatible : c.verdict (.length b) ≠ .incompatible := by rw [hv]; decide
  obtain ⟨r, hr, hvr⟩ := Constraints.exists_lengthRange_of_verdict hcompatible
  rw [hv] at hvr
  have hmax := max_lengths_le hr
  have hlow : 0 ≤ r.min := r.lowest_le_min
  have hmid := r.min_le_max
  refine (always_lengthCase hr hcompatible g).mono ?_
  rintro x ⟨i, s, rfl, hi, hs⟩
  have hcontains := StepRange.contains_of_valid StepDomain.lengths_lawful hmax hvr hi
  simp only [StepRange.contains, Bool.and_eq_true] at hcontains
  have hge : r.min.toNat ≤ s.length := by
    rw [hs, ← StepDomain.toNat_lengths_value hlow (by omega)]
    exact of_decide_eq_true hcontains.1
  have hle : s.length ≤ r.max.toNat := by
    rw [hs, ← StepDomain.toNat_lengths_value (by omega) hmax]
    exact of_decide_eq_true hcontains.2
  refine ⟨s, rfl, ?_, ?_⟩
  · intro n hn
    rw [Constraints.lengthRange, Option.mem_def.1 hn] at hr
    have hdeclared := max_lengths hr
    omega
  · intro m hm
    rw [Constraints.lengthRange, Option.mem_def.1 hm] at hr
    rcases min_lengths hr with hkept | ⟨hnone, hlarge, hmoved, hmovedMax⟩
    · left
      omega
    · right
      refine ⟨hnone, hlarge, ?_⟩
      omega

/-- A note of 20 to 20000 characters. -/
def longNote : Constraints where
  minLength := some 20
  maxLength := some 20000

/-- The longest note is longer than texts are without a maximum. -/
theorem longNote_keeps_lengths :
    longNote.check = .ok () ∧ longNote.verdict (.length .max) = .valid ∧
      Draw.Always (({} : Generator).generate (.length .max) longNote) fun x =>
        ∃ s, x = .ok (.text s) ∧ s.length ≤ 20000 ∧ 20 ≤ s.length := by
  have hv : longNote.verdict (.length .max) = .valid := rfl
  refine ⟨rfl, hv, (valid_text_keeps_lengths hv {}).mono ?_⟩
  rintro x ⟨s, rfl, hmax, hmin⟩
  refine ⟨s, rfl, hmax _ rfl, ?_⟩
  rcases hmin _ rfl with hkept | ⟨hnone, -⟩
  · exact hkept
  · cases hnone

/-- An essay of more than 10000 characters. -/
def essay : Constraints where
  minLength := some 10001

/-- The shortest essay that is called valid is too short. -/
theorem valid_essay_is_too_short :
    essay.check = .ok () ∧ essay.verdict (.length .min) = .valid ∧
      ∀ g : Generator, Draw.Always (g.generate (.length .min) essay) fun x =>
        ∃ s, x = .ok (.text s) ∧ ∃ m ∈ essay.minLength, s.length < m.toNat := by
  have hr : essay.lengthRange =
    .ok ⟨10000, 10000, 10000, by decide, by decide, by decide⟩ := rfl
  refine ⟨rfl, rfl, ?_⟩
  intro g
  refine (always_lengthCase hr (by decide) g).mono ?_
  rintro x ⟨i, s, rfl, hi, hs⟩
  obtain rfl : i = 10000 := by
    simp only [StepRange.Places] at hi
    omega
  refine ⟨s, rfl, 10001, rfl, ?_⟩
  rw [hs]
  decide

end TestDesign
