import TestDesign.Proofs.BoundaryOrder

/-!
# TestDesign.Proofs.EmptyTexts

Texts of an element that declares nothing but lengths, drawn for one of its valid cases. The cases
that leave an element empty by name are never drawn, but the length of another case can come down to
zero: at or below a declared minimum of zero, and between the bounds below a maximum of one, where
no length lies between them and the minimum takes their place (`LeavesEmpty`).

`valid_text_empty_iff`: these are the only cases that give an empty text, and they always do.
-/

namespace TestDesign

open TestDesign.Random

/-- The element declares nothing but lengths, and whether it is required. -/
structure Constraints.OnlyLengths (c : Constraints) : Prop where
  dataType : c.dataType = .string
  value : c.value = none
  accepted : c.accepted = []
  minValue : c.minValue = none
  maxValue : c.maxValue = none
  format : c.format = none
  isComputed : c.isComputed = false

/-- The length of the case comes down to zero, although the case does not say so by its name. -/
def Constraints.LeavesEmpty (c : Constraints) : DataCase → Prop
  | .length .randomBelowMin | .length .justBelowMin | .length .min => c.minLength = some 0
  | .length .justAboveMin | .length .median | .length .randomBetweenMinMax
  | .length .justBelowMax => c.minLength.getD 0 = 0 ∧ c.maxLength = some 1
  | _ => False

variable {c : Constraints} {b : Boundary} {case : DataCase}

/-! ## Ranges of lengths -/

section Range

variable {lo hi : Option UInt64} {r : StepRange StepDomain.lengths}

theorem toNat_lengths_value_eq_zero {i : Int} (h : 0 ≤ i) :
    (StepDomain.lengths.value i).toNat = 0 ↔ i = 0 := by
  by_cases hi : i ≤ 18446744073709551615
  · rw [StepDomain.toNat_lengths_value h hi]
    omega
  · have hclamped : StepDomain.lengths.value i = 18446744073709551615 := by
      simp only [StepDomain.lengths]
      rw [StepDomain.clamp_eq_upper (by decide) (by omega)]
      rfl
    rw [hclamped]
    have hpositive : (18446744073709551615 : UInt64).toNat ≠ 0 := by decide
    omega

/-- The range starts at zero just where no greater minimum is declared. -/
theorem min_lengths_eq_zero (hr : StepRange.of .lengths lo hi = .ok r) :
    r.min = 0 ↔ lo.getD 0 = 0 := by
  cases lo with
  | none =>
    have hmin := (StepRange.of_eq_ok hr).2.1
    simp only [Option.map_none, StepRange.boundFor, StepDomain.lowest_lengths] at hmin
    simp [hmin]
  | some m =>
    have hzero : m = 0 ↔ m.toNat = 0 := UInt64.toNat_inj.symm
    rw [Option.getD_some, hzero]
    rcases min_lengths hr with hmin | ⟨-, hlarge, hmin, -⟩ <;> omega

theorem max_lengths_eq_one (hr : StepRange.of .lengths lo hi = .ok r) :
    r.max = 1 ↔ hi = some 1 := by
  cases hi with
  | none =>
    have hmax := (StepRange.of_eq_ok hr).2.2
    simp only [Option.map_none, StepRange.boundFor, StepDomain.greatest_lengths] at hmax
    simp [hmax]
  | some n =>
    have hone : n = 1 ↔ n.toNat = 1 := UInt64.toNat_inj.symm
    rw [max_lengths hr, Option.some.injEq, hone]
    omega

theorem one_le_max_lengths (hr : StepRange.of .lengths lo hi = .ok r) (h : hi ≠ some 0) :
    1 ≤ r.max := by
  cases hi with
  | none =>
    have hmax := (StepRange.of_eq_ok hr).2.2
    simp only [Option.map_none, StepRange.boundFor, StepDomain.greatest_lengths] at hmax
    omega
  | some n =>
    have hne : n.toNat ≠ 0 := fun hn => h (congrArg some (UInt64.toNat_inj.1 hn))
    rw [max_lengths hr]
    omega

end Range

/-! ## Cases -/

theorem Extent.applies_of_valid {x : Extent} (h : x.verdict b = .valid) : x.applies b = true := by
  unfold verdict at h
  split at h
  · cases h
  · rename_i happlies
    simpa using happlies

/-- Below the minimum only those cases are valid that have nothing below it. -/
theorem Extent.hasBelow_of_valid {x : Extent} (h : x.verdict b = .valid)
    (hb : b = .randomBelowMin ∨ b = .justBelowMin) : x.hasBelow = false := by
  rcases hb with rfl | rfl
  all_goals
    simp only [verdict, applies_of_valid h, Bool.not_true, Bool.false_eq_true, if_false] at h
    exact StepRange.invalidIf_eq_valid.1 h

theorem Constraints.index_eq_zero_iff {r : StepRange StepDomain.lengths} {i : Int}
    (hr : c.lengthRange = .ok r) (hmax : c.maxLength ≠ some 0)
    (hv : (r.extent c.minLength.isSome c.maxLength.isSome).verdict b = .valid)
    (hb : isEmptying (.length b) = false) (hi : (r.indexes b).1 ≤ i ∧ i ≤ (r.indexes b).2) :
    i = 0 ↔ c.LeavesEmpty (.length b) := by
  have hlow : 0 ≤ r.min := r.lowest_le_min
  have hlowest : StepDomain.lengths.lowest = 0 := rfl
  have htop := r.max_le_top
  have hone := one_le_max_lengths hr hmax
  have hminZero := min_lengths_eq_zero hr
  have hmaxOne := max_lengths_eq_one hr
  have happlies := Extent.applies_of_valid hv
  have hdeclared (h : c.minLength.isSome = true) :
      c.minLength.getD 0 = 0 ↔ c.minLength = some 0 := by
    obtain ⟨m, hm⟩ := Option.isSome_iff_exists.1 h
    rw [hm, Option.getD_some, Option.some.injEq]
  cases b with
  | lowest | zero => cases hb
  | randomBelowMin | justBelowMin =>
    have hbelow : r.hasBelow = false := Extent.hasBelow_of_valid hv (by simp)
    simp only [StepRange.hasBelow, decide_eq_false_iff_not] at hbelow
    have hmin : r.min = 0 := by omega
    have hzero := (hdeclared happlies).1 (hminZero.1 hmin)
    simp only [StepRange.indexes, StepRange.hasBelow, StepRange.fixedIndex?, Option.getD_some,
      decide_eq_true_eq] at hi
    refine ⟨fun _ => hzero, fun _ => ?_⟩
    split at hi <;> omega
  | min =>
    simp only [StepRange.indexes, StepRange.fixedIndex?, Option.getD_some] at hi
    have heq : i = r.min := by omega
    rw [heq, hminZero, hdeclared happlies]
    rfl
  | justAboveMin | median | justBelowMax | randomBetweenMinMax =>
    -- Without a length between the bounds, the minimum is drawn in its place.
    have hnone : i = 0 ↔ r.min = 0 ∧ r.max = 1 := by
      simp only [StepRange.indexes, StepRange.fixedIndex?, StepRange.hasBetween, Option.getD_some,
        decide_eq_true_eq] at hi
      split at hi <;> omega
    rw [hnone, hminZero, hmaxOne]
    rfl
  | max | greatest =>
    simp only [StepRange.indexes, StepRange.fixedIndex?, Option.getD_some] at hi
    exact ⟨fun hzero => by omega, fun h => h.elim⟩
  | justAboveMax | randomAboveMax =>
    simp only [StepRange.indexes, StepRange.fixedIndex?, StepRange.hasAbove, Option.getD_some,
      decide_eq_true_eq] at hi
    refine ⟨fun hzero => ?_, fun h => h.elim⟩
    split at hi <;> omega

/-- A declared minimum above zero keeps all cases from that; without a minimum, a maximum above one
does. -/
theorem Constraints.not_leavesEmpty (hmin : c.minLength ≠ some 0)
    (hone : c.minLength = none → c.maxLength ≠ some 1) : ¬ c.LeavesEmpty case := by
  have hbetween : ¬ (c.minLength.getD 0 = 0 ∧ c.maxLength = some 1) := by
    rintro ⟨hzero, hmax⟩
    cases hlength : c.minLength with
    | none => exact hone hlength hmax
    | some m =>
      rw [hlength, Option.getD_some] at hzero
      exact hmin (hzero ▸ hlength)
  intro h
  unfold LeavesEmpty at h
  split at h
  case h_1 | h_2 | h_3 => exact hmin h
  case h_4 | h_5 | h_6 | h_7 => exact hbetween h
  case h_8 => exact h

namespace Generator

/-- What a valid case gives to an element with nothing but lengths. -/
def EmptyOnlyIfLeft (c : Constraints) (case : DataCase) (x : Except DataError Value) : Prop :=
  ∃ t, x = .ok (.text t) ∧ (t = "" ↔ c.LeavesEmpty case)

theorem always_lengthCase_empty (g : Generator) (hmax : c.maxLength ≠ some 0)
    (hv : c.verdict (.length b) = .valid) (hb : Constraints.isEmptying (.length b) = false) :
    Draw.Always (g.generate (.length b) c) (EmptyOnlyIfLeft c (.length b)) := by
  have hcompatible : c.verdict (.length b) ≠ .incompatible := by rw [hv]; decide
  obtain ⟨r, hr, hvr⟩ := Constraints.exists_lengthRange_of_verdict hcompatible
  rw [hv] at hvr
  unfold generate
  rw [if_neg hcompatible]
  refine (always_atLength_of hr ((r.always_indexAt b).and (r.always_indexAt_indexes b))).mono ?_
  rintro x ⟨i, t, rfl, ⟨hplace, hi⟩, ht⟩
  have hlow : 0 ≤ i := (hplace.mem StepDomain.lengths_lawful (StepRange.greatest_le_top hr)).1
  refine ⟨t, rfl, ?_⟩
  rw [← Constraints.index_eq_zero_iff hr hmax hvr hb hi, ← toNat_lengths_value_eq_zero hlow, ← ht,
    String.length_eq_zero_iff]

theorem always_nonEmpty {min max : Nat} (h : 1 ≤ min) :
    Draw.Always (Draw.textBetween min max) fun t => t ≠ "" := by
  refine Draw.always_bind (Draw.always_length min max) fun n hn => ?_
  refine (Draw.always_text n).mono fun t ht hempty => ?_
  rw [hempty, String.length_empty] at ht
  omega

/-- Filling the element gives it at least one character. -/
theorem always_filled_nonEmpty (g : Generator) (hl : c.OnlyLengths) (hc : c.check = .ok ()) :
    Draw.Always (g.generate .filled c) (EmptyOnlyIfLeft c .filled) := by
  obtain ⟨-, hlengths, -⟩ := Constraints.check_eq_ok hc
  have hrange : c.valueRange g.realDelta = .ok none := by
    rw [Constraints.valueRange, hl.dataType]
    rfl
  have hgiven {d : Draw String} (h : Draw.Always d fun t => t ≠ "") :
      Draw.Always (do return .ok (.text (← d))) (EmptyOnlyIfLeft c .filled) :=
    Draw.always_bind h fun t ht =>
      Draw.always_pure ⟨t, rfl, fun hempty => absurd hempty ht, False.elim⟩
  have hplain : g.generate .filled c = g.plain c := by
    simp [generate, Constraints.verdict, compatible, filled, hl.value, hl.accepted, hl.format,
      Draw.choose]
  rw [hplain, plain, hrange]
  simp only [hl.dataType]
  split
  · contradiction
  · split
    · obtain ⟨r, hr⟩ := Constraints.exists_lengthRange hlengths
      rw [hr]
      exact hgiven (always_nonEmpty (Nat.le_max_right _ _))
    · exact hgiven (always_nonEmpty (Nat.le_max_right _ _))

/-- The other valid cases of such an element have a length or fill the element. -/
theorem always_valid_empty (g : Generator) (hl : c.OnlyLengths) (hc : c.check = .ok ())
    (hmax : c.maxLength ≠ some 0) (hv : c.verdict case = .valid)
    (hcase : Constraints.isEmptying case = false) :
    Draw.Always (g.generate case c) (EmptyOnlyIfLeft c case) := by
  cases case with
  | length b => exact g.always_lengthCase_empty hmax hv hcase
  | filled => exact g.always_filled_nonEmpty hl hc
  | notFilled => cases hcase
  | value b =>
    simp [Constraints.verdict, Constraints.valueExtent?, Constraints.valueRange, hl.dataType,
      ValueRange.of, Constraints.verdictIn] at hv
  | formatValid | formatInvalid | setFirst | setRandom | setLast | setOther | computed =>
    simp [Constraints.verdict, Constraints.verdictIf, Constraints.hasAccepted, hl.format,
      hl.accepted, hl.isComputed] at hv

theorem run_validValue (g : Generator) (c : Constraints) (s : Stream) :
    (g.validValue c).run s =
      (g.generate (c.validCase.run s).1 c).run (c.validCase.run s).2 := rfl

/-- An element that declares nothing but lengths, with a maximum above zero, always gets a text as
its random valid value. The text is empty exactly when the length of the chosen case comes down to
zero: a declared minimum of zero is chosen, or a length below it, or one between the bounds where
the minimum is zero and the maximum is one. With any other lengths the text is never empty. -/
theorem valid_text_empty_iff (hl : c.OnlyLengths) (hc : c.check = .ok ())
    (hmax : c.maxLength ≠ some 0) (g : Generator) (s : Stream) :
    ∃ t, ((g.validValue c).run s).1 = .ok (.text t) ∧
      (t = "" ↔ c.LeavesEmpty (c.validCase.run s).1) ∧
      (c.minLength ≠ some 0 → (c.minLength = none → c.maxLength ≠ some 1) → t ≠ "") := by
  obtain ⟨hv, hcase⟩ := c.always_validCase s
  obtain ⟨t, ht, hempty⟩ := g.always_valid_empty hl hc hmax hv hcase (c.validCase.run s).2
  exact ⟨t, ht, hempty, fun hmin hone hnone =>
    Constraints.not_leavesEmpty hmin hone (hempty.1 hnone)⟩

/-- A nickname of at most five characters. -/
def nickname : Constraints where
  maxLength := some 5

/-- The nickname is never empty. -/
theorem nickname_not_empty :
    nickname.check = .ok () ∧ nickname.OnlyLengths ∧ nickname.maxLength ≠ some 0 ∧
      ∀ (g : Generator) (s : Stream), ∃ t,
        ((g.validValue nickname).run s).1 = .ok (.text t) ∧ t ≠ "" := by
  have hl : nickname.OnlyLengths := ⟨rfl, rfl, rfl, rfl, rfl, rfl, rfl⟩
  have hmax : nickname.maxLength ≠ some 0 := by decide
  refine ⟨rfl, hl, hmax, fun g s => ?_⟩
  obtain ⟨t, ht, -, hne⟩ := valid_text_empty_iff hl rfl hmax g s
  exact ⟨t, ht, hne (by decide) fun _ => by decide⟩

/-- An initial: at most one character. -/
def initial : Constraints where
  maxLength := some 1

/-- A valid value of the initial is empty. -/
theorem valid_initial_is_empty :
    initial.check = .ok () ∧ initial.OnlyLengths ∧ initial.maxLength ≠ some 0 ∧
      ((({} : Generator).validValue initial).run (⟨"scenaria"⟩ : Seed).stream).1 =
        .ok (.text "") := by
  have hcase : (initial.validCase.run (⟨"scenaria"⟩ : Seed).stream).1 =
      .length .randomBetweenMinMax := by decide +kernel
  have hmax : initial.maxLength ≠ some 0 := by decide
  obtain ⟨t, ht, hempty⟩ := always_lengthCase_empty {} hmax (b := .randomBetweenMinMax) rfl rfl
    (initial.validCase.run (⟨"scenaria"⟩ : Seed).stream).2
  obtain rfl : t = "" := hempty.2 ⟨rfl, rfl⟩
  refine ⟨rfl, ⟨rfl, rfl, rfl, rfl, rfl, rfl, rfl⟩, hmax, ?_⟩
  rw [run_validValue, hcase]
  exact ht

end Generator

end TestDesign
