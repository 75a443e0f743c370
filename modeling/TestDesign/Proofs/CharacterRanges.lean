import TestDesign.Pattern.Sample
import TestDesign.Proofs.Draws

/-!
# TestDesign.Proofs.CharacterRanges

Sets of characters as lists of ranges. In a proper list the ends of every range are characters,
in order; in a normal one the ranges go upwards besides and do not touch. All operations on sets
give proper lists, and the complement, which looks at neighbours, does so for normal ones.

* `always_pick`: what is drawn from a proper list that is not empty is a character of the set.
-/

/-! ## Characters that differ in case -/

namespace TestDesign.Text

variable {lo hi c : Nat} {r : Shift}

/-- All codes between the two are characters. -/
def AllValid (lo hi : Nat) : Prop := lo ≤ hi ∧ (hi < 0xd800 ∨ 0xe000 ≤ lo ∧ hi < 0x110000)

instance : Decidable (AllValid lo hi) := inferInstanceAs (Decidable (_ ∧ _))

theorem AllValid.isValidChar (h : AllValid lo hi) (hlo : lo ≤ c) (hhi : c ≤ hi) :
    c.isValidChar := by
  obtain ⟨-, h⟩ := h
  simp only [Nat.isValidChar]
  omega

theorem foldTable_valid : ∀ r ∈ foldTable.toList,
    AllValid r.1 r.2.1 ∧ AllValid r.2.2.2 (r.apply r.2.1) := by decide +kernel

theorem isValidChar_of_mem_members (hr : AllValid r.1 r.2.1) (hc : c ∈ r.members) :
    c.isValidChar := by
  obtain ⟨i, hi, rfl⟩ := List.mem_map.1 hc
  have hsteps : i * r.2.2.1 ≤ r.2.1 - r.1 :=
    Nat.le_trans (Nat.mul_le_mul_right _ (Nat.le_of_lt_succ (List.mem_range.1 hi)))
      (Nat.div_mul_le_self _ _)
  have hle := hr.1
  exact hr.isValidChar (Nat.le_add_right _ _) (by omega)

theorem Run.bounds_of_holds {r : Run} (h : r.holds c = true) : r.1 ≤ c ∧ c ≤ r.2.1 := by
  simp only [Run.holds, Bool.and_eq_true, decide_eq_true_eq] at h
  exact h.1

theorem isValidChar_shiftNat {table : Array Shift} (hc : c.isValidChar)
    (h : ∀ r ∈ table.toList, AllValid r.2.2.2 (r.apply r.2.1)) :
    (shiftNat table c).isValidChar := by
  unfold shiftNat
  split
  · rename_i r hr
    have hholds := Array.find?_some hr
    obtain ⟨hlo, hhi⟩ : r.1 ≤ c ∧ c ≤ r.2.1 := Run.bounds_of_holds hholds
    have hmem : r ∈ table.toList := Array.mem_def.1 (Array.mem_of_find?_eq_some hr)
    refine (h r hmem).isValidChar (Nat.le_add_right _ _) ?_
    simp only [Shift.apply]
    omega
  · exact hc

theorem isValidChar_fold (hc : c.isValidChar) : (fold c).isValidChar :=
  isValidChar_shiftNat hc fun r hr => (foldTable_valid r hr).2

theorem isValidChar_of_mem_foldPairs {a b : Nat} (h : (a, b) ∈ foldPairs) :
    a.isValidChar ∧ b.isValidChar := by
  rw [foldPairs, List.mem_flatMap] at h
  obtain ⟨r, hr, h⟩ := h
  obtain ⟨c, hc, hab⟩ := List.mem_map.1 h
  obtain ⟨rfl, rfl⟩ := Prod.mk.inj hab
  have hvalid := isValidChar_of_mem_members (foldTable_valid r hr).1 hc
  exact ⟨hvalid, isValidChar_fold hvalid⟩

end TestDesign.Text

namespace TestDesign.Pattern

open TestDesign.Random

namespace Ranges

variable {rs ss : Ranges} {r : Nat × Nat} {lo hi i c : Nat}

/-- Both ends are characters, in order. -/
def IsSpan (r : Nat × Nat) : Prop := r.1.isValidChar ∧ r.2.isValidChar ∧ r.1 ≤ r.2

instance : DecidablePred IsSpan := fun _ => inferInstanceAs (Decidable (_ ∧ _))

def Proper (rs : Ranges) : Prop := ∀ r ∈ rs, IsSpan r

instance : DecidablePred Proper := fun _ => inferInstanceAs (Decidable (∀ _ ∈ _, _))

/-- The ranges go upwards, and there are characters between any two of them. -/
def Normal (rs : Ranges) : Prop := rs.Proper ∧ rs.Pairwise fun a b => a.2 + 1 < b.1

instance : DecidablePred Normal := fun _ => inferInstanceAs (Decidable (_ ∧ _))

theorem isSpan_self (h : c.isValidChar) : IsSpan (c, c) := ⟨h, h, Nat.le_refl c⟩

theorem isSpan_of_char_le {a b : Char} (h : a ≤ b) : IsSpan (a.toNat, b.toNat) :=
  ⟨a.valid, b.valid, h⟩

@[simp] theorem proper_nil : Proper [] := nofun

theorem proper_singleton (h : IsSpan r) : Proper [r] := by
  rintro _ (_ | ⟨_, ⟨⟩⟩)
  exact h

theorem Proper.append (h : rs.Proper) (h' : ss.Proper) : Proper (rs ++ ss) := by
  intro r hr
  exact (List.mem_append.1 hr).elim (h r) (h' r)

theorem proper_flatMap {α : Type} {f : α → Ranges} {xs : List α} (h : ∀ x ∈ xs, (f x).Proper) :
    Proper (xs.flatMap f) := by
  intro r hr
  obtain ⟨x, hx, hr⟩ := List.mem_flatMap.1 hr
  exact h x hx r hr

theorem proper_flatten {rss : List Ranges} (h : ∀ rs ∈ rss, rs.Proper) : Proper rss.flatten := by
  intro r hr
  obtain ⟨rs, hrs, hr⟩ := List.mem_flatten.1 hr
  exact h rs hrs r hr

/-! ## The normal list of a set -/

theorem IsSpan.join {a : Nat × Nat} (h : IsSpan a) (h' : IsSpan r) :
    IsSpan (a.1, max a.2 r.2) := by
  obtain ⟨hlo, hhi, hle⟩ := h
  refine ⟨hlo, ?_, Nat.le_trans hle (Nat.le_max_left _ _)⟩
  rcases Nat.le_total a.2 r.2 with hmax | hmax
  · rw [Nat.max_eq_right hmax]
    exact h'.2.1
  · rw [Nat.max_eq_left hmax]
    exact hhi

/-- The ranges start no lower than the ones before them. -/
def Sorted (rs : Ranges) : Prop := rs.Pairwise fun a b => a.1 ≤ b.1

theorem first_le_of_mem_joinFrom {current : Nat × Nat} (h : Sorted (current :: rs))
    (hr : r ∈ joinFrom current rs) : current.1 ≤ r.1 := by
  induction rs generalizing current with
  | nil =>
    cases List.mem_singleton.1 hr
    exact Nat.le_refl _
  | cons a rs ih =>
    obtain ⟨hcurrent, hrs⟩ := List.pairwise_cons.1 h
    rw [joinFrom] at hr
    split at hr
    · have hjoined : Sorted ((current.1, max current.2 a.2) :: rs) :=
        List.pairwise_cons.2 ⟨fun b hb => hcurrent b (.tail _ hb), hrs.of_cons⟩
      exact (ih hjoined hr :)
    · rcases List.mem_cons.1 hr with rfl | hr
      · exact Nat.le_refl _
      · exact Nat.le_trans (hcurrent a (.head _)) (ih hrs hr)

theorem normal_joinFrom {current : Nat × Nat} (hc : IsSpan current) (hrs : Proper rs)
    (h : Sorted (current :: rs)) : Normal (joinFrom current rs) := by
  induction rs generalizing current with
  | nil => exact ⟨proper_singleton hc, List.pairwise_singleton _ _⟩
  | cons a rs ih =>
    obtain ⟨hcurrent, hsorted⟩ := List.pairwise_cons.1 h
    have ha : IsSpan a := hrs a (.head _)
    have hrest : Proper rs := fun b hb => hrs b (.tail _ hb)
    rw [joinFrom]
    split
    · refine ih (hc.join ha) hrest (List.pairwise_cons.2 ⟨?_, hsorted.of_cons⟩)
      exact fun b hb => hcurrent b (.tail _ hb)
    · rename_i hgap
      obtain ⟨hproper, hpairs⟩ := ih ha hrest hsorted
      refine ⟨List.forall_mem_cons.2 ⟨hc, hproper⟩, List.pairwise_cons.2 ⟨?_, hpairs⟩⟩
      intro b hb
      have := first_le_of_mem_joinFrom hsorted hb
      omega

theorem normal_normalize (h : rs.Proper) : Normal rs.normalize := by
  have hproper : Proper (rs.mergeSort fun a b => a.1 ≤ b.1) :=
    fun r hr => h r (List.mem_mergeSort.1 hr)
  have hsorted : Sorted (rs.mergeSort fun a b => a.1 ≤ b.1) := by
    refine (List.pairwise_mergeSort ?_ ?_ rs).imp of_decide_eq_true
    · intro a b c hab hbc
      exact decide_eq_true (Nat.le_trans (of_decide_eq_true hab) (of_decide_eq_true hbc))
    · intro a b
      rw [Bool.or_eq_true, decide_eq_true_eq, decide_eq_true_eq]
      exact Nat.le_total _ _
  unfold normalize
  cases hs : rs.mergeSort fun a b => a.1 ≤ b.1 with
  | nil => exact ⟨proper_nil, .nil⟩
  | cons r rs =>
    rw [hs] at hproper hsorted
    exact normal_joinFrom (hproper r (.head _)) (fun a ha => hproper a (.tail _ ha)) hsorted

/-! ## Complements -/

theorem isValidChar_after (h : c.isValidChar) (hc : c < last) : (after c).isValidChar := by
  simp only [Nat.isValidChar, after, last] at *
  split <;> omega

theorem isValidChar_before (h : c.isValidChar) (hc : 0 < c) : (before c).isValidChar := by
  simp only [Nat.isValidChar, before] at *
  split <;> omega

theorem isValidChar_zero : Nat.isValidChar 0 := by decide

theorem isValidChar_last : last.isValidChar := by decide

theorem le_last (h : c.isValidChar) : c ≤ last := by
  simp only [Nat.isValidChar, last] at *
  omega

theorem isSpan_min_max {a b : Nat} (ha : a.isValidChar) (hb : b.isValidChar) :
    IsSpan (min a b, max a b) := by
  rcases Nat.le_total a b with h | h
  · rw [Nat.min_eq_left h, Nat.max_eq_right h]
    exact ⟨ha, hb, h⟩
  · rw [Nat.min_eq_right h, Nat.max_eq_left h]
    exact ⟨hb, ha, h⟩

theorem proper_gapsAbove (hr : IsSpan r) (h : Normal (r :: rs)) : Proper (gapsAbove r.2 rs) := by
  induction rs generalizing r with
  | nil =>
    rw [gapsAbove]
    split
    · rename_i hlast
      have hafter := isValidChar_after hr.2.1 hlast
      exact proper_singleton ⟨hafter, isValidChar_last, le_last hafter⟩
    · exact proper_nil
  | cons a rs ih =>
    obtain ⟨hproper, hpairs⟩ := h
    obtain ⟨hfirst, hrest⟩ := List.pairwise_cons.1 hpairs
    have ha : IsSpan a := hproper a (.tail _ (.head _))
    have hlt : r.2 + 1 < a.1 := hfirst a (.head _)
    have hle : a.1 ≤ last := le_last ha.1
    refine List.forall_mem_cons.2 ⟨?_, ih ha ⟨fun b hb => hproper b (.tail _ hb), hrest⟩⟩
    exact isSpan_min_max (isValidChar_after hr.2.1 (by omega))
      (isValidChar_before ha.1 (by omega))

theorem Normal.proper_complement (h : rs.Normal) : rs.complement.Proper := by
  cases rs with
  | nil => exact proper_singleton (by decide)
  | cons r rs =>
    have hr : IsSpan r := h.1 r (.head _)
    refine Proper.append ?_ (proper_gapsAbove hr h)
    split
    · rename_i hpos
      exact proper_singleton ⟨isValidChar_zero, isValidChar_before hr.1 hpos, Nat.zero_le _⟩
    · exact proper_nil

/-! ## Parts of a set, and the other cases of its letters -/

theorem proper_shiftPart {move : Nat → Nat}
    (hvalid : ∀ c, lo ≤ c → c ≤ hi → (move c).isValidChar)
    (hmono : ∀ a b, lo ≤ a → a ≤ b → b ≤ hi → move a ≤ move b) :
    Proper (shiftPart lo hi move r) := by
  simp only [shiftPart]
  split
  · rename_i hle
    have hlo : lo ≤ max lo r.1 := Nat.le_max_left _ _
    have hhi : min hi r.2 ≤ hi := Nat.min_le_left _ _
    exact proper_singleton ⟨hvalid _ hlo (Nat.le_trans hle hhi),
      hvalid _ (Nat.le_trans hlo hle) hhi, hmono _ _ hlo hle hhi⟩
  · exact proper_nil

theorem proper_shiftParts {move : Nat → Nat}
    (hvalid : ∀ c, lo ≤ c → c ≤ hi → (move c).isValidChar)
    (hmono : ∀ a b, lo ≤ a → a ≤ b → b ≤ hi → move a ≤ move b) :
    Proper (rs.flatMap (shiftPart lo hi move)) :=
  proper_flatMap fun _ _ => proper_shiftPart hvalid hmono

theorem Proper.normal_foldAscii (h : rs.Proper) : rs.foldAscii.Normal := by
  refine normal_normalize ((h.append ?_).append ?_)
  · exact proper_shiftParts (fun c _ hc => .inl (by omega)) fun a b _ hab _ => by omega
  · exact proper_shiftParts (fun c _ hc => .inl (by omega)) fun a b _ hab _ => by omega

theorem Proper.normal_foldAll (h : rs.Proper) : rs.foldAll.Normal := by
  refine normal_normalize (h.append (proper_flatMap fun p hp => ?_))
  obtain ⟨hfirst, hsecond⟩ := Text.isValidChar_of_mem_foldPairs (List.mem_filter.1 hp).1
  exact (proper_singleton (isSpan_self hfirst)).append (proper_singleton (isSpan_self hsecond))

/-! ## The classes with a letter or a name of their own -/

theorem normal_ascii (s : Shorthand) : s.ascii.Normal := by cases s <;> decide

theorem normal_unicode (s : Shorthand) : s.unicode.Normal := by
  cases s <;> exact normal_normalize (by decide +kernel)

theorem normal_namedClasses : ∀ c ∈ namedClasses, c.2.Normal := by decide

/-! ## Picking a character -/

theorem proper_within (hhi : hi < 0xd800) : Proper (within lo hi rs) :=
  proper_shiftParts (fun _ _ hc => .inl (Nat.lt_of_le_of_lt hc hhi)) fun _ _ _ hab _ => hab

theorem holds_iff {c : Nat} : rs.holds c = true ↔ ∃ r ∈ rs, r.1 ≤ c ∧ c ≤ r.2 := by
  simp [holds, List.any_eq_true]

theorem holds_of_within {c : Nat} (h : (within lo hi rs).holds c = true) :
    rs.holds c = true := by
  obtain ⟨part, hpart, hc⟩ := holds_iff.1 h
  obtain ⟨r, hr, hpart⟩ := List.mem_flatMap.1 hpart
  refine holds_iff.2 ⟨r, hr, ?_⟩
  simp only [shiftPart] at hpart
  split at hpart
  · cases List.mem_singleton.1 hpart
    simp only [id] at hc
    omega
  · cases hpart

theorem size_pos (hne : rs ≠ []) : 0 < rs.size := by
  cases rs with
  | nil => exact absurd rfl hne
  | cons r rs => simp only [size]; omega

theorem toNat_ofNat {c : Nat} (h : c.isValidChar) : (Char.ofNat c).toNat = c := by
  rw [Char.ofNat, dif_pos h]
  rfl

/-- A position within the size is that of a character of the set. -/
theorem nth?_holds (h : rs.Proper) (hi : i < rs.size) :
    ∃ c, rs.nth? i = some c ∧ rs.holds c.toNat = true := by
  induction rs generalizing i with
  | nil => cases hi
  | cons r rs ih =>
    obtain ⟨hfirst, -, hle⟩ := h r (.head _)
    rw [nth?]
    split
    · rename_i hin
      split
      · rename_i hvalid
        refine ⟨_, rfl, holds_iff.2 ⟨r, .head _, ?_⟩⟩
        rw [toNat_ofNat hvalid]
        exact ⟨Nat.le_add_right _ _, hin⟩
      · refine ⟨_, rfl, holds_iff.2 ⟨r, .head _, ?_⟩⟩
        rw [toNat_ofNat hfirst]
        exact ⟨Nat.le_refl _, hle⟩
    · simp only [size] at hi
      have hrest : i - (r.2 - r.1 + 1) < size rs := by omega
      obtain ⟨c, hc, hholds⟩ := ih (fun a ha => h a (.tail _ ha)) hrest
      obtain ⟨a, ha, hin⟩ := holds_iff.1 hholds
      exact ⟨c, hc, holds_iff.2 ⟨a, .tail _ ha, hin⟩⟩

theorem always_pick (h : rs.Proper) (hne : rs ≠ []) :
    Draw.Always rs.pick fun x => ∃ c, x = some c ∧ rs.holds c.toNat = true := by
  unfold pick
  rw [dif_pos (size_pos hne)]
  exact Draw.always_of_forall fun i => Draw.always_pure (nth?_holds h i.isLt)

theorem Proper.printable (h : rs.Proper) : rs.printable.Proper := by
  unfold Ranges.printable
  split
  · exact h
  · exact proper_within (by decide)

theorem printable_ne_nil (hne : rs ≠ []) : rs.printable ≠ [] := by
  unfold printable
  split
  · exact hne
  · assumption

theorem holds_of_printable {c : Nat} (h : rs.printable.holds c = true) : rs.holds c = true := by
  unfold printable at h
  split at h
  · exact h
  · exact holds_of_within h

end Ranges

end TestDesign.Pattern
