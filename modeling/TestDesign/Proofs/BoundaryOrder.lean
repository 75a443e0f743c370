import Mathlib.Data.List.Chain
import TestDesign.Proofs.ValidLengths

/-!
# TestDesign.Proofs.BoundaryOrder

The order of the boundaries of a range at equal steps. At each boundary the index lies between two
known ones (`always_indexAt_indexes`), and where one boundary comes before another, these intervals
follow one another (`isChain_ascending`). Values are ordered as their indexes are.

`boundaries_in_order`: in each of the five domains the boundaries of every range go upwards from the
lowest value to the greatest one, random ones included, whatever is drawn; nothing is drawn from an
empty range; and values said to lie below the minimum or above the maximum do, unless the maximum is
the greatest length there is, which has no length above it.
-/

namespace TestDesign

open Calendar TestDesign.Random

/-- The domains of values at equal steps, each with the last index that has a value of its own. -/
inductive StepDomain.Known : {α : Type} → StepDomain α → Int → Prop where
  | integers : Known integers Value.maxInt
  | lengths : Known lengths 18446744073709551615
  | dates : Known dates 3652059
  | times : Known times 86399
  | moments : Known moments 253402300799

namespace StepDomain.Known

variable {α : Type} {d : StepDomain α} {last : Int}

theorem lawful (h : d.Known last) : d.Lawful last := by
  cases h with
  | integers => exact integers_lawful
  | lengths => exact lengths_lawful
  | dates => exact dates_lawful
  | times => exact times_lawful
  | moments => exact moments_lawful

/-- An index outside the domain has the value of the nearest end. -/
theorem value_clamp (h : d.Known last) (i : Int) : d.value (clamp d.lowest last i) = d.value i := by
  cases h with
  | integers => exact congrArg Int64.ofInt (clamp_clamp StepDomain.integers.lowest_le_greatest i)
  | lengths =>
    have hle : (0 : Int) ≤ 18446744073709551615 := by decide
    exact congrArg (fun i => UInt64.ofNat i.toNat) (clamp_clamp hle i)
  | dates => exact congrArg Date.ofNumber (clamp_clamp StepDomain.dates.lowest_le_greatest i)
  | times => exact congrArg Time.ofNumber (clamp_clamp StepDomain.times.lowest_le_greatest i)
  | moments => exact congrArg Moment.ofNumber (clamp_clamp StepDomain.moments.lowest_le_greatest i)

theorem value_le_value (h : d.Known last) {i j : Int} (hij : i ≤ j) :
    d.le (d.value i) (d.value j) = true := by
  have hdomain : d.lowest ≤ last := Int.le_trans d.lowest_le_greatest h.lawful.greatest_le_last
  rw [← h.value_clamp i, ← h.value_clamp j]
  exact h.lawful.le_value _ _ (clamp_mem hdomain i).1 (clamp_le_clamp hdomain hij)
    (clamp_mem hdomain j).2

theorem value_lt_value (h : d.Known last) {i j : Int} (hi : d.lowest ≤ i) (hij : i < j)
    (hj : j ≤ last) : d.le (d.value j) (d.value i) = false := by
  refine Bool.eq_false_iff.2 fun hle => ?_
  have hindex := h.lawful.index_le_index _ _ hle
  rw [h.lawful.index_value j (by omega) hj, h.lawful.index_value i hi (by omega)] at hindex
  omega

end StepDomain.Known

namespace StepRange

variable {α : Type} {d : StepDomain α} (r : StepRange d) {lo hi : Option α} {last : Int}

/-! ## Indexes -/

/-- The least and the greatest index at a boundary. -/
def indexes (b : Boundary) : Int × Int :=
  match b with
  | .randomBelowMin => if r.hasBelow then (d.lowest, r.min - 1) else (r.min, r.min)
  | .randomBetweenMinMax => if r.hasBetween then (r.min + 1, r.max - 1) else (r.min, r.min)
  | .randomAboveMax => if r.hasAbove then (r.max + 1, r.top) else (r.max, r.max)
  | b => ((r.fixedIndex? b).getD r.min, (r.fixedIndex? b).getD r.min)

/-- An index is drawn from a range that is not empty. -/
def DrawsFrom (lo hi : Int) (x : Draw Int) : Prop :=
  ∃ h : lo ≤ hi, x = do return (← Draw.between .w128 lo hi h).val

theorem indexAt_randomBelowMin :
    if r.hasBelow then DrawsFrom d.lowest (r.min - 1) (r.indexAt .randomBelowMin)
    else r.indexAt .randomBelowMin = return r.min := by
  simp only [hasBelow, decide_eq_true_eq, indexAt]
  split
  · exact ⟨by omega, dif_pos _⟩
  · exact dif_neg (by omega)

theorem indexAt_randomBetweenMinMax :
    if r.hasBetween then DrawsFrom (r.min + 1) (r.max - 1) (r.indexAt .randomBetweenMinMax)
    else r.indexAt .randomBetweenMinMax = return r.min := by
  simp only [hasBetween, decide_eq_true_eq, indexAt]
  split
  · exact ⟨by omega, dif_pos _⟩
  · exact dif_neg (by omega)

theorem indexAt_randomAboveMax :
    if r.hasAbove then DrawsFrom (r.max + 1) r.top (r.indexAt .randomAboveMax)
    else r.indexAt .randomAboveMax = return r.max := by
  simp only [hasAbove, decide_eq_true_eq, indexAt]
  split
  · exact ⟨by omega, dif_pos _⟩
  · exact dif_neg (by omega)

theorem indexes_le (b : Boundary) : (r.indexes b).1 ≤ (r.indexes b).2 := by
  cases b with
  | randomBelowMin | randomBetweenMinMax | randomAboveMax =>
    simp only [indexes, hasBelow, hasBetween, hasAbove, decide_eq_true_eq]
    split <;> simp only <;> omega
  | lowest | justBelowMin | min | justAboveMin | zero | median | justBelowMax | max | justAboveMax
  | greatest => exact Int.le_refl _

/-- The index at a boundary, for every stream. -/
theorem always_indexAt_indexes (b : Boundary) :
    Draw.Always (r.indexAt b) fun i => (r.indexes b).1 ≤ i ∧ i ≤ (r.indexes b).2 := by
  have hdrawn {lo hi : Int} {x : Draw Int} (h : DrawsFrom lo hi x) :
      Draw.Always x fun i => lo ≤ i ∧ i ≤ hi := by
    obtain ⟨hle, rfl⟩ := h
    exact Draw.always_bind (Draw.always_between _ _ _ hle) fun i hi => Draw.always_pure hi
  have hfixed {i : Int} {x : Draw Int} (h : x = return i) :
      Draw.Always x fun j => i ≤ j ∧ j ≤ i := by
    rw [h]
    exact Draw.always_pure ⟨Int.le_refl i, Int.le_refl i⟩
  cases b with
  | randomBelowMin =>
    have h := r.indexAt_randomBelowMin
    simp only [indexes]
    split at h
    · rw [if_pos ‹_›]
      exact hdrawn h
    · rw [if_neg ‹_›]
      exact hfixed h
  | randomBetweenMinMax =>
    have h := r.indexAt_randomBetweenMinMax
    simp only [indexes]
    split at h
    · rw [if_pos ‹_›]
      exact hdrawn h
    · rw [if_neg ‹_›]
      exact hfixed h
  | randomAboveMax =>
    have h := r.indexAt_randomAboveMax
    simp only [indexes]
    split at h
    · rw [if_pos ‹_›]
      exact hdrawn h
    · rw [if_neg ‹_›]
      exact hfixed h
  | lowest | justBelowMin | min | justAboveMin | zero | median | justBelowMax | max | justAboveMax
  | greatest => exact hfixed rfl

/-- The indexes at one boundary come before those at another one, or meet them. -/
def Before (b b' : Boundary) : Prop := (r.indexes b).2 ≤ (r.indexes b').1

instance : Trans r.Before r.Before r.Before where
  trans {_ b _} h h' := Int.le_trans h (Int.le_trans (r.indexes_le b) h')

/-- The boundaries from the lowest value up. Zero has no place among them, and the median none beside
the random value between the bounds. -/
def ascending : List Boundary :=
  [.lowest, .randomBelowMin, .justBelowMin, .min, .justAboveMin, .median, .justBelowMax, .max,
    .justAboveMax, .randomAboveMax, .greatest]

/-- The boundaries strictly between the bounds, with the random one. -/
def inner : List Boundary := [.justAboveMin, .randomBetweenMinMax, .justBelowMax]

theorem isChain_ascending : ascending.IsChain r.Before := by
  have h₀ := r.lowest_le_min
  have h₁ := r.min_le_max
  have h₂ := r.max_le_top
  simp only [ascending, List.isChain_cons_cons, Before, indexes, fixedIndex?, Option.getD_some,
    hasBelow, hasBetween, hasAbove, decide_eq_true_eq]
  refine ⟨?_, ?_, ?_, ?_, ?_, ?_, ?_, ?_, ?_, ?_, .singleton _⟩ <;> (repeat' split) <;> omega

theorem isChain_inner : inner.IsChain r.Before := by
  have h₁ := r.min_le_max
  simp only [inner, List.isChain_cons_cons, Before, indexes, fixedIndex?, Option.getD_some,
    hasBetween, decide_eq_true_eq]
  refine ⟨?_, ?_, .singleton _⟩ <;> split <;> simp only <;> omega

/-! ## Values -/

/-- Whatever is drawn at the first boundary is at most what is drawn at the second one. -/
def AtMost (b b' : Boundary) : Prop :=
  ∀ s s' : Stream, d.le ((r.drawAt b).run s).1 ((r.drawAt b').run s').1 = true

/-- Whatever is drawn at the first boundary is less than what is drawn at the second one. -/
def Less (b b' : Boundary) : Prop :=
  ∀ s s' : Stream, d.le ((r.drawAt b').run s').1 ((r.drawAt b).run s).1 = false

/-- The boundaries below the minimum. -/
def belowMin : List Boundary := [.lowest, .randomBelowMin, .justBelowMin]

/-- The boundaries above the maximum. -/
def aboveMax : List Boundary := [.justAboveMax, .randomAboveMax, .greatest]

/-- The boundaries of a range are in order. -/
structure InOrder : Prop where
  ascending : ascending.Pairwise r.AtMost
  inner : inner.Pairwise r.AtMost
  /-- Nothing is drawn from an empty range: without values to draw from there is no draw. -/
  randomBelowMin : if r.hasBelow then DrawsFrom d.lowest (r.min - 1) (r.indexAt .randomBelowMin)
    else r.indexAt .randomBelowMin = return r.min
  randomBetweenMinMax :
    if r.hasBetween then DrawsFrom (r.min + 1) (r.max - 1) (r.indexAt .randomBetweenMinMax)
    else r.indexAt .randomBetweenMinMax = return r.min
  randomAboveMax : if r.hasAbove then DrawsFrom (r.max + 1) r.top (r.indexAt .randomAboveMax)
    else r.indexAt .randomAboveMax = return r.max
  below : r.hasBelow = true → ∀ b ∈ belowMin, r.Less b .min

variable {r}

theorem exists_index (r : StepRange d) (b : Boundary) (s : Stream) :
    ∃ i, ((r.drawAt b).run s).1 = d.value i ∧ (r.indexes b).1 ≤ i ∧ i ≤ (r.indexes b).2 :=
  ⟨_, rfl, r.always_indexAt_indexes b s⟩

theorem atMost_of_before (hd : d.Known last) {b b' : Boundary} (h : r.Before b b') :
    r.AtMost b b' := by
  intro s s'
  obtain ⟨i, hi, -, hupper⟩ := r.exists_index b s
  obtain ⟨j, hj, hlower, -⟩ := r.exists_index b' s'
  rw [hi, hj]
  exact hd.value_le_value (Int.le_trans hupper (Int.le_trans h hlower))

theorem pairwise_atMost (hd : d.Known last) {bs : List Boundary} (h : bs.IsChain r.Before) :
    bs.Pairwise r.AtMost :=
  (List.isChain_iff_pairwise.1 h).imp (atMost_of_before hd)

theorem less_of_indexes (hd : d.Known last) {b b' : Boundary}
    (hlow : d.lowest ≤ (r.indexes b).1) (h : (r.indexes b).2 < (r.indexes b').1)
    (hlast : (r.indexes b').2 ≤ last) : r.Less b b' := by
  intro s s'
  obtain ⟨i, hi, hlower, hupper⟩ := r.exists_index b s
  obtain ⟨j, hj, hlower', hupper'⟩ := r.exists_index b' s'
  rw [hi, hj]
  exact hd.value_lt_value (by omega) (by omega) (by omega)

theorem top_le_last (hd : d.Known last) (hr : of d lo hi = .ok r)
    (hmax : d.isOpenAbove = true → ∀ m ∈ hi, d.index m < last) : r.top ≤ last := by
  have htop := (of_eq_ok hr).1
  have hlast := hd.lawful.greatest_le_last
  rw [htop]
  unfold topFor
  split
  · rename_i i hi
    obtain ⟨m, hm, rfl⟩ := Option.map_eq_some_iff.1 hi
    split
    · rename_i hopen
      simp only [Bool.and_eq_true, decide_eq_true_eq] at hopen
      exact hmax hopen.1 m hm
    · exact hlast
  · exact hlast

theorem max_le_last (hd : d.Known last) (hr : of d lo hi = .ok r) : r.max ≤ last := by
  cases hopen : d.isOpenAbove with
  | false =>
    have htop := top_le_last hd hr fun h => absurd (hopen.symm.trans h) nofun
    exact Int.le_trans r.max_le_top htop
  | true =>
    -- Only lengths may go beyond the domain, but no further than their type does.
    cases hd with
    | lengths => exact max_lengths_le hr
    | integers | dates | times | moments => cases hopen

theorem less_min (hd : d.Known last) (hr : of d lo hi = .ok r) (h : r.hasBelow = true) :
    ∀ b ∈ belowMin, r.Less b .min := by
  have hlast := max_le_last hd hr
  have hmid := r.min_le_max
  have hbelow : d.lowest < r.min := of_decide_eq_true h
  simp only [belowMin, List.forall_mem_cons]
  refine ⟨?_, ?_, ?_, nofun⟩ <;> refine less_of_indexes hd ?_ ?_ ?_ <;>
    simp only [indexes, fixedIndex?, Option.getD_some, h, if_true] <;> (repeat' split) <;> omega

theorem max_less (hd : d.Known last) (htop : r.top ≤ last) (h : r.hasAbove = true) :
    ∀ b ∈ aboveMax, r.Less .max b := by
  have hlow := r.lowest_le_min
  have hmid := r.min_le_max
  have habove : r.max < r.top := of_decide_eq_true h
  simp only [aboveMax, List.forall_mem_cons]
  refine ⟨?_, ?_, ?_, nofun⟩ <;> refine less_of_indexes hd ?_ ?_ ?_ <;>
    simp only [indexes, fixedIndex?, Option.getD_some, h, if_true] <;> (repeat' split) <;> omega

/-- The boundaries of every range of the domains are in order. Values above the maximum are greater
than the maximum, provided that it is not the greatest length there is. -/
theorem boundaries_in_order (hd : d.Known last) (hr : of d lo hi = .ok r) :
    r.InOrder ∧
      ((d.isOpenAbove = true → ∀ m ∈ hi, d.index m < last) → r.hasAbove = true →
        ∀ b ∈ aboveMax, r.Less .max b) := by
  refine ⟨⟨?_, ?_, ?_, ?_, ?_, ?_⟩, ?_⟩
  · exact pairwise_atMost hd r.isChain_ascending
  · exact pairwise_atMost hd r.isChain_inner
  · exact r.indexAt_randomBelowMin
  · exact r.indexAt_randomBetweenMinMax
  · exact r.indexAt_randomAboveMax
  · exact less_min hd hr
  · intro hmax
    exact max_less hd (top_le_last hd hr hmax)

/-- The range of lengths from 3 to 20000, which lie beyond the greatest length of the domain. -/
theorem longTexts_in_order :
    ∃ r, of .lengths (some 3) (some 20000) = .ok r ∧ r.hasBelow = true ∧ r.hasAbove = true ∧
      r.InOrder ∧ ∀ b ∈ aboveMax, r.Less .max b := by
  have hr : of .lengths (some 3) (some 20000) =
    .ok ⟨3, 20000, 20001, by decide, by decide, by decide⟩ := rfl
  obtain ⟨horder, habove⟩ := boundaries_in_order .lengths hr
  refine ⟨_, hr, rfl, rfl, horder, habove ?_ rfl⟩
  rintro - m ⟨⟩
  decide

end StepRange

end TestDesign
