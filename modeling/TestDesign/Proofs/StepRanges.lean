import TestDesign.Plan.Analysis
import TestDesign.Proofs.CalendarNumbers
import TestDesign.Proofs.Draws

/-!
# TestDesign.Proofs.StepRanges

Ranges of values at equal steps: where the index drawn at a boundary lies, and what the verdict on
the boundary says about that place.

* `always_indexAt`: the index drawn at a boundary, for every range and every stream.
* `contains_of_valid`, `inside_of_valid`, `outside_of_invalid`: a valid boundary lies in the range,
  an invalid one outside; `violatedBound_of_invalid` says on which side, which is that of the
  violated bound.
* `below_declared`, `above_declared`: an index below the range stands for a value below the
  declared minimum itself, also when the bound was moved to an end of its domain or has a fraction
  of a second, and likewise above. `declared_of_invalid` puts the two together.
-/

namespace TestDesign

open Calendar TestDesign.Random

/-- Indexes and values of a domain fit together: from the lowest index to `last` they are one to
one, and the order of values never contradicts that of their indexes. -/
structure StepDomain.Lawful {α : Type} (d : StepDomain α) (last : Int) : Prop where
  greatest_le_last : d.greatest ≤ last
  zero_mem : d.lowest ≤ d.zero ∧ d.zero ≤ d.greatest
  index_value : ∀ i, d.lowest ≤ i → i ≤ last → d.index (d.value i) = i
  le_value : ∀ i j, d.lowest ≤ i → i ≤ j → j ≤ last → d.le (d.value i) (d.value j) = true
  index_le_index : ∀ x y, d.le x y = true → d.index x ≤ d.index y

namespace StepDomain

theorem clamp_eq_self {lo hi i : Int} (h₀ : lo ≤ i) (h₁ : i ≤ hi) : clamp lo hi i = i := by
  unfold clamp
  rw [if_neg (by omega), if_neg (by omega)]

theorem clamp_eq_lower {lo hi i : Int} (h : i < lo) : clamp lo hi i = lo := by
  unfold clamp
  rw [if_pos h]

theorem clamp_eq_upper {lo hi i : Int} (hle : lo ≤ hi) (h : hi < i) : clamp lo hi i = hi := by
  unfold clamp
  rw [if_neg (by omega), if_pos h]

theorem le_clamp {lo hi i : Int} (h : i ≤ hi) : i ≤ clamp lo hi i := by
  unfold clamp
  split
  · omega
  · split <;> omega

theorem clamp_le {lo hi i : Int} (h : lo ≤ i) : clamp lo hi i ≤ i := by
  unfold clamp
  split
  · omega
  · split <;> omega

theorem clamp_le_clamp {lo hi i j : Int} (hle : lo ≤ hi) (h : i ≤ j) :
    clamp lo hi i ≤ clamp lo hi j := by
  unfold clamp
  grind

theorem clamp_mem {lo hi : Int} (hle : lo ≤ hi) (i : Int) :
    lo ≤ clamp lo hi i ∧ clamp lo hi i ≤ hi := by
  unfold clamp
  split
  · omega
  · split <;> omega

theorem clamp_clamp {lo hi : Int} (hle : lo ≤ hi) (i : Int) :
    clamp lo hi (clamp lo hi i) = clamp lo hi i :=
  clamp_eq_self (clamp_mem hle i).1 (clamp_mem hle i).2

theorem toInt_integers_value {i : Int} (h₀ : Value.minInt ≤ i) (h₁ : i ≤ Value.maxInt) :
    (integers.value i).toInt = i := by
  simp only [integers]
  rw [clamp_eq_self h₀ h₁]
  unfold Value.minInt at h₀
  unfold Value.maxInt at h₁
  exact Int64.toInt_ofInt_of_le (by omega) (by omega)

theorem toNat_lengths_value {i : Int} (h₀ : 0 ≤ i) (h₁ : i ≤ 18446744073709551615) :
    (lengths.value i).toNat = i.toNat := by
  simp only [lengths]
  rw [clamp_eq_self h₀ h₁]
  have hlt : i.toNat < UInt64.size := by
    unfold UInt64.size
    omega
  exact UInt64.toNat_ofNat_of_lt' hlt

theorem lowest_lengths : lengths.lowest = 0 := rfl

theorem greatest_lengths : lengths.greatest = 10000 := rfl

theorem index_lengths (n : UInt64) : lengths.index n = n.toNat := rfl

theorem integers_lawful : integers.Lawful Value.maxInt where
  greatest_le_last := Int.le_refl _
  zero_mem := by decide
  index_value _ h₀ h₁ := toInt_integers_value h₀ h₁
  le_value i j h₀ hij h₁ := by
    have hi := toInt_integers_value (i := i) h₀ (Int.le_trans hij h₁)
    have hj := toInt_integers_value (i := j) (Int.le_trans h₀ hij) h₁
    show decide ((integers.value i).toInt ≤ (integers.value j).toInt) = true
    rw [hi, hj]
    exact decide_eq_true hij
  index_le_index _ _ h := of_decide_eq_true h

/-- Lengths are one to one with their indexes up to the greatest word. -/
theorem lengths_lawful : lengths.Lawful 18446744073709551615 where
  greatest_le_last := by decide
  zero_mem := by decide
  index_value i h₀ h₁ := by
    have h := toNat_lengths_value h₀ h₁
    show ((lengths.value i).toNat : Int) = i
    rw [h]
    exact Int.toNat_of_nonneg h₀
  le_value i j h₀ hij h₁ := by
    have hi := toNat_lengths_value (i := i) h₀ (Int.le_trans hij h₁)
    have hj := toNat_lengths_value (i := j) (Int.le_trans h₀ hij) h₁
    show decide ((lengths.value i).toNat ≤ (lengths.value j).toNat) = true
    rw [hi, hj]
    exact decide_eq_true (Int.toNat_le_toNat hij)
  index_le_index _ _ h := Int.ofNat_le.2 (of_decide_eq_true h)

theorem dates_lawful : dates.Lawful 3652059 where
  greatest_le_last := by decide
  zero_mem := by decide
  index_value i h₀ h₁ := by
    simp only [dates] at h₀ ⊢
    rw [clamp_eq_self h₀ h₁]
    exact Date.number_ofNumber i
  le_value i j h₀ hij h₁ := by
    simp only [dates] at h₀ ⊢
    rw [clamp_eq_self h₀ (by omega), clamp_eq_self (by omega) h₁, Date.number_ofNumber,
      Date.number_ofNumber]
    exact decide_eq_true hij
  index_le_index _ _ h := of_decide_eq_true h

theorem times_lawful : times.Lawful 86399 where
  greatest_le_last := by decide
  zero_mem := by decide
  index_value i h₀ h₁ := by
    simp only [times] at h₀ ⊢
    rw [clamp_eq_self h₀ h₁]
    exact Time.number_ofNumber h₀ (by omega)
  le_value i j h₀ hij h₁ := by
    simp only [times] at h₀ ⊢
    rw [clamp_eq_self h₀ (by omega), clamp_eq_self (by omega) h₁, Time.le_iff,
      Time.number_ofNumber h₀ (by omega), Time.number_ofNumber (by omega) (by omega)]
    simp only [Time.ofNumber]
    omega
  index_le_index x y h := by
    simp only [times]
    have := (Time.le_iff x y).1 h
    omega

theorem moments_lawful : moments.Lawful 253402300799 where
  greatest_le_last := by decide
  zero_mem := by decide
  index_value i h₀ h₁ := by
    simp only [moments] at h₀ ⊢
    rw [clamp_eq_self h₀ h₁]
    exact Moment.number_ofNumber i
  le_value i j h₀ hij h₁ := by
    simp only [moments] at h₀ ⊢
    rw [clamp_eq_self h₀ (by omega), clamp_eq_self (by omega) h₁, Moment.le_iff,
      Moment.number_ofNumber, Moment.number_ofNumber]
    simp only [Moment.ofNumber, Time.ofNumber]
    omega
  index_le_index x y h := by
    simp only [moments]
    have := (Moment.le_iff x y).1 h
    omega

end StepDomain

namespace StepRange

variable {α : Type} {d : StepDomain α} {r : StepRange d} {lo hi : Option α} {last : Int}
  {b : Boundary} {i : Int}

/-- What is known of a range without drawing from it. -/
def extent (r : StepRange d) (hasMin hasMax : Bool) : Extent :=
  { hasMin, hasMax, hasBelow := r.hasBelow, hasAbove := r.hasAbove, holds := r.holds }

theorem of_eq_ok (h : of d lo hi = .ok r) :
    r.top = topFor d (hi.map d.index) ∧
      r.min = boundFor d r.top d.lowest (lo.map d.index) ∧
      r.max = boundFor d r.top d.greatest (hi.map d.index) := by
  simp only [of] at h
  split at h
  · cases h
    exact ⟨rfl, rfl, rfl⟩
  · cases h

theorem topFor_lengths (n : UInt64) :
    topFor .lengths (some (StepDomain.lengths.index n)) =
      if 10000 ≤ (n.toNat : Int) then (n.toNat : Int) + 1 else 10000 := by
  simp [topFor, StepDomain.lengths]

theorem greatest_le_top (h : of d lo hi = .ok r) : d.greatest ≤ r.top := by
  rw [(of_eq_ok h).1]
  exact greatest_le_topFor d _

/-! ## Where a boundary lies -/

/-- The places that the index at a boundary may take. -/
def Places (r : StepRange d) : Boundary → Int → Prop
  | .lowest, i => i = d.lowest
  | .zero, i => i = d.zero
  | .greatest, i => i = r.top
  | .randomBelowMin, i | .justBelowMin, i =>
    if r.hasBelow then d.lowest ≤ i ∧ i < r.min else i = r.min
  | .justAboveMax, i | .randomAboveMax, i =>
    if r.hasAbove then r.max < i ∧ i ≤ r.top else i = r.max
  | .min, i | .justAboveMin, i | .median, i | .randomBetweenMinMax, i | .justBelowMax, i
  | .max, i => r.min ≤ i ∧ i ≤ r.max

theorem places_of_fixedIndex (hb : r.fixedIndex? b = some i) : r.Places b i := by
  have h₀ := r.lowest_le_min
  have h₁ := r.min_le_max
  have h₂ := r.max_le_top
  cases b with
  | lowest | zero | greatest =>
    cases hb
    rfl
  | min | max =>
    cases hb
    simp only [Places]
    omega
  | justAboveMin | median | justBelowMax =>
    cases hb
    simp only [Places, hasBetween, decide_eq_true_eq]
    split <;> omega
  | justBelowMin =>
    cases hb
    simp only [Places, hasBelow, decide_eq_true_eq]
    split <;> split <;> omega
  | justAboveMax =>
    cases hb
    simp only [Places, hasAbove, decide_eq_true_eq]
    split <;> split <;> omega
  | randomBelowMin | randomBetweenMinMax | randomAboveMax => cases hb

theorem always_indexAt (r : StepRange d) (b : Boundary) :
    Draw.Always (r.indexAt b) (r.Places b) := by
  have h₁ := r.min_le_max
  unfold indexAt
  split
  · split
    · rename_i h
      refine Draw.always_bind (Draw.always_between _ _ _ h) fun x hx => Draw.always_pure ?_
      simp only [Places, hasBelow, decide_eq_true_eq]
      rw [if_pos (by omega)]
      omega
    · refine Draw.always_pure ?_
      simp only [Places, hasBelow, decide_eq_true_eq]
      rw [if_neg (by omega)]
      trivial
  · split
    · rename_i h
      refine Draw.always_bind (Draw.always_between _ _ _ h) fun x hx => Draw.always_pure ?_
      simp only [Places]
      omega
    · refine Draw.always_pure ?_
      simp only [Places]
      omega
  · split
    · rename_i h
      refine Draw.always_bind (Draw.always_between _ _ _ h) fun x hx => Draw.always_pure ?_
      simp only [Places, hasAbove, decide_eq_true_eq]
      rw [if_pos (by omega)]
      omega
    · refine Draw.always_pure ?_
      simp only [Places, hasAbove, decide_eq_true_eq]
      rw [if_neg (by omega)]
      trivial
  · rename_i h₀ h₂ h₃
    obtain ⟨i, hi⟩ : ∃ i, r.fixedIndex? b = some i := by
      cases b <;> first | exact ⟨_, rfl⟩ | contradiction
    refine Draw.always_pure ?_
    rw [hi]
    exact places_of_fixedIndex hi

theorem Places.mem (hd : d.Lawful last) (hg : d.greatest ≤ r.top) (h : r.Places b i) :
    d.lowest ≤ i ∧ i ≤ r.top := by
  have h₀ := r.lowest_le_min
  have h₁ := r.min_le_max
  have h₂ := r.max_le_top
  have hz := hd.zero_mem
  cases b with
  | lowest | zero | greatest | min | max | justAboveMin | median | justBelowMax
  | randomBetweenMinMax =>
    simp only [Places] at h
    omega
  | justBelowMin | randomBelowMin | justAboveMax | randomAboveMax =>
    simp only [Places] at h
    split at h <;> omega

/-! ## What a verdict says -/

/-- A boundary that is not random lies in the range of values just when its index lies in the
range of indexes. -/
theorem holds_iff (hd : d.Lawful last) (ht : r.top ≤ last) (hb : r.fixedIndex? b = some i)
    (h₀ : d.lowest ≤ i) (h₁ : i ≤ last) : r.holds b = true ↔ r.min ≤ i ∧ i ≤ r.max := by
  have hmin := r.lowest_le_min
  have hmax := r.min_le_max
  have htop := r.max_le_top
  have hiv := hd.index_value i h₀ h₁
  have hminv := hd.index_value r.min hmin (by omega)
  have hmaxv := hd.index_value r.max (by omega) (by omega)
  simp only [holds, fixedAt?, hb, Option.map_some, Option.any_some, contains, Bool.and_eq_true]
  -- The range compares values, which may be equal at different indexes outside the domain.
  constructor
  · intro ⟨hlo, hhi⟩
    have hlo := hd.index_le_index _ _ hlo
    have hhi := hd.index_le_index _ _ hhi
    omega
  · intro ⟨hlo, hhi⟩
    exact ⟨hd.le_value _ _ hmin hlo h₁, hd.le_value _ _ h₀ hhi (by omega)⟩

theorem invalidIf_eq_valid {x : Bool} : Extent.invalidIf x = .valid ↔ x = false := by
  cases x <;> simp [Extent.invalidIf]

theorem invalidIf_eq_invalid {x : Bool} : Extent.invalidIf x = .invalid ↔ x = true := by
  cases x <;> simp [Extent.invalidIf]

section Verdict

variable {hasMin hasMax : Bool}

/-- A valid boundary has a value in the range. This is about values: the indexes beyond `last` all
have one value, so there an index may lie outside and its value inside. -/
theorem contains_of_valid (hd : d.Lawful last) (hmax : r.max ≤ last)
    (hv : (r.extent hasMin hasMax).verdict b = .valid) (h : r.Places b i) :
    r.contains (d.value i) = true := by
  have hlow := r.lowest_le_min
  have hmid := r.min_le_max
  have hinside (h₀ : r.min ≤ i) (h₁ : i ≤ r.max) : r.contains (d.value i) = true := by
    simp only [contains, Bool.and_eq_true]
    exact ⟨hd.le_value _ _ hlow h₀ (by omega), hd.le_value _ _ (by omega) h₁ hmax⟩
  unfold Extent.verdict at hv
  split at hv
  · cases hv
  · cases b with
    | lowest | zero | greatest =>
      cases h
      simp only [invalidIf_eq_valid, Bool.not_eq_false', extent] at hv
      exact hv
    | min | max | justAboveMin | median | justBelowMax | randomBetweenMinMax => exact hinside h.1 h.2
    | justBelowMin | randomBelowMin =>
      have hb : r.hasBelow = false := invalidIf_eq_valid.1 hv
      simp only [Places, hb, Bool.false_eq_true, if_false] at h
      exact hinside (by omega) (by omega)
    | justAboveMax | randomAboveMax =>
      have ha : r.hasAbove = false := invalidIf_eq_valid.1 hv
      simp only [Places, ha, Bool.false_eq_true, if_false] at h
      exact hinside (by omega) (by omega)

theorem inside_of_valid (hd : d.Lawful last) (hg : d.greatest ≤ r.top) (ht : r.top ≤ last)
    (hv : (r.extent hasMin hasMax).verdict b = .valid) (h : r.Places b i) :
    r.min ≤ i ∧ i ≤ r.max := by
  have hmem := h.mem hd hg
  have hlow := r.lowest_le_min
  have hmid := r.min_le_max
  have htop := r.max_le_top
  have hcontains := contains_of_valid hd (by omega) hv h
  simp only [contains, Bool.and_eq_true] at hcontains
  have hlo := hd.index_le_index _ _ hcontains.1
  have hhi := hd.index_le_index _ _ hcontains.2
  have hi := hd.index_value i hmem.1 (by omega)
  have hmin := hd.index_value r.min hlow (by omega)
  have hmax := hd.index_value r.max (by omega) (by omega)
  omega

theorem outside_of_invalid (hd : d.Lawful last) (hg : d.greatest ≤ r.top) (ht : r.top ≤ last)
    (hv : (r.extent hasMin hasMax).verdict b = .invalid) (h : r.Places b i) :
    i < r.min ∨ r.max < i := by
  have hmem := h.mem hd hg
  unfold Extent.verdict at hv
  split at hv
  · cases hv
  · cases b with
    | lowest | zero | greatest =>
      cases h
      simp only [invalidIf_eq_invalid, Bool.not_eq_true', extent] at hv
      have hnot := mt (holds_iff hd ht rfl hmem.1 (by omega)).2 (Bool.eq_false_iff.1 hv)
      omega
    | min | max | justAboveMin | median | justBelowMax | randomBetweenMinMax => cases hv
    | justBelowMin | randomBelowMin =>
      have hb : r.hasBelow = true := invalidIf_eq_invalid.1 hv
      simp only [Places, hb, if_true] at h
      omega
    | justAboveMax | randomAboveMax =>
      have ha : r.hasAbove = true := invalidIf_eq_invalid.1 hv
      simp only [Places, ha, if_true] at h
      omega

/-- Where zero lies outside the range, it is said to lie on that side. -/
def ZeroAgrees (r : StepRange d) (zeroBelow : Bool) : Prop :=
  (d.zero < r.min → zeroBelow = true) ∧ (r.max < d.zero → zeroBelow = false)

/-- An invalid boundary lies on the side of the bound that it is said to violate. -/
theorem violatedBound_of_invalid (hd : d.Lawful last) (hg : d.greatest ≤ r.top)
    (ht : r.top ≤ last) (hv : (r.extent hasMin hasMax).verdict b = .invalid) {zeroBelow : Bool}
    (hz : r.ZeroAgrees zeroBelow) (min max : PropertyKind) :
    (Constraints.violatedBound b zeroBelow min max = some min ∧ ∀ i, r.Places b i → i < r.min) ∨
      (Constraints.violatedBound b zeroBelow min max = some max ∧
        ∀ i, r.Places b i → r.max < i) := by
  have hout {i : Int} (h : r.Places b i) := outside_of_invalid hd hg ht hv h
  have hlow := r.lowest_le_min
  have hmid := r.min_le_max
  have htop := r.max_le_top
  cases b with
  | lowest =>
    refine .inl ⟨rfl, ?_⟩
    intro i hi
    have hside := hout hi
    simp only [Places] at hi
    omega
  | justBelowMin | randomBelowMin =>
    refine .inl ⟨rfl, ?_⟩
    intro i hi
    have hside := hout hi
    simp only [Places] at hi
    split at hi <;> omega
  | zero =>
    rcases hout rfl with hlt | hlt
    · exact .inl ⟨by rw [hz.1 hlt]; rfl, by rintro i rfl; exact hlt⟩
    · exact .inr ⟨by rw [hz.2 hlt]; rfl, by rintro i rfl; exact hlt⟩
  | min | max | justAboveMin | median | justBelowMax | randomBetweenMinMax =>
    have hside := hout (i := r.min) ⟨Int.le_refl _, hmid⟩
    omega
  | justAboveMax | randomAboveMax =>
    refine .inr ⟨rfl, ?_⟩
    intro i hi
    have hside := hout hi
    simp only [Places] at hi
    split at hi <;> omega
  | greatest =>
    refine .inr ⟨rfl, ?_⟩
    intro i hi
    have hside := hout hi
    simp only [Places] at hi
    omega

end Verdict

/-! ## Declared bounds -/

theorem below_declared (hd : d.Lawful last) (hr : of d lo hi = .ok r) (ht : r.top ≤ last)
    (h₀ : d.lowest ≤ i) (hlt : i < r.min) :
    ∃ m, lo = some m ∧ d.le m (d.value i) = false := by
  have hmin := (of_eq_ok hr).2.1
  have hmax := r.min_le_max
  have htop := r.max_le_top
  have hiv := hd.index_value i h₀ (by omega)
  cases lo with
  | none =>
    simp only [Option.map_none, boundFor] at hmin
    omega
  | some m =>
    refine ⟨m, rfl, Bool.eq_false_iff.2 fun hle => ?_⟩
    have hidx := hd.index_le_index _ _ hle
    -- Moving the minimum into the domain does not take it past an index of the domain.
    simp only [Option.map_some, boundFor, StepDomain.clamp] at hmin
    split at hmin
    · omega
    · split at hmin <;> omega

theorem above_declared (hd : d.Lawful last) (hr : of d lo hi = .ok r) (ht : r.top ≤ last)
    (h₁ : i ≤ r.top) (hlt : r.max < i) :
    ∃ m, hi = some m ∧ d.le (d.value i) m = false := by
  have hmax := (of_eq_ok hr).2.2
  have htop := (of_eq_ok hr).1
  have hmin := r.min_le_max
  have hlow := r.lowest_le_min
  have hiv := hd.index_value i (by omega) (by omega)
  cases hi with
  | none =>
    simp only [Option.map_none, boundFor] at hmax
    simp only [Option.map_none, topFor] at htop
    omega
  | some m =>
    refine ⟨m, rfl, Bool.eq_false_iff.2 fun hle => ?_⟩
    have hidx := hd.index_le_index _ _ hle
    simp only [Option.map_some, boundFor, StepDomain.clamp] at hmax
    split at hmax
    · omega
    · split at hmax <;> omega

/-- The bound that an invalid boundary is said to violate is declared, and the values at the
boundary lie beyond it. -/
theorem declared_of_invalid {hasMin hasMax zeroBelow : Bool} (hd : d.Lawful last)
    (hr : of d lo hi = .ok r) (ht : r.top ≤ last)
    (hv : (r.extent hasMin hasMax).verdict b = .invalid) (hz : r.ZeroAgrees zeroBelow)
    (min max : PropertyKind) :
    (∃ m, lo = some m ∧ Constraints.violatedBound b zeroBelow min max = some min ∧
        ∀ i, r.Places b i → d.le m (d.value i) = false) ∨
      ∃ m, hi = some m ∧ Constraints.violatedBound b zeroBelow min max = some max ∧
        ∀ i, r.Places b i → d.le (d.value i) m = false := by
  have hg := greatest_le_top hr
  obtain ⟨j, hj⟩ := (always_indexAt r b).exists
  rcases violatedBound_of_invalid hd hg ht hv hz min max with ⟨hkind, hside⟩ | ⟨hkind, hside⟩
  · obtain ⟨m, hm, -⟩ := below_declared hd hr ht (hj.mem hd hg).1 (hside j hj)
    refine .inl ⟨m, hm, hkind, ?_⟩
    intro i hi
    obtain ⟨m', hm', hle⟩ := below_declared hd hr ht (hi.mem hd hg).1 (hside i hi)
    cases hm.symm.trans hm'
    exact hle
  · obtain ⟨m, hm, -⟩ := above_declared hd hr ht (hj.mem hd hg).2 (hside j hj)
    refine .inr ⟨m, hm, hkind, ?_⟩
    intro i hi
    obtain ⟨m', hm', hle⟩ := above_declared hd hr ht (hi.mem hd hg).2 (hside i hi)
    cases hm.symm.trans hm'
    exact hle

end StepRange

end TestDesign
