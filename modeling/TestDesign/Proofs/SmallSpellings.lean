import TestDesign.Proofs.CharacterRanges
import TestDesign.Text.Words

/-!
# TestDesign.Proofs.SmallSpellings

Small spellings of characters and texts. A character and its small spelling are both letters or
digits, or both not (`isAlphanumeric_head?_lowerChar`). A text is spelled character by character,
but for the capital sigma, which looks at what follows it: so the small spelling of a text starts
with as many characters as that of its beginning has, and with the same ones where the beginning
has no capital sigma (`exists_lowerFrom_append`).
-/

namespace TestDesign.Text

variable {c : Char} {lo hi : Nat} {r : Shift}

/-- ASCII characters can be checked one by one. -/
theorem forall_ascii {p : Char → Prop} (h : ∀ n < 128, p (Char.ofNat n)) (hc : c.toNat < 128) :
    p c := by
  have hp := h c.toNat hc
  rwa [Char.ofNat_toNat] at hp

/-! ## Letters -/

/-- Beyond ASCII, all characters between the two are letters, in one range of the table. -/
def AllLetters (lo hi : Nat) : Prop :=
  128 ≤ lo ∧ AllValid lo hi ∧
    (alphabeticTable.toList.any fun r => Nat.ble hi r.2 && Nat.ble r.1 lo) = true

instance : Decidable (AllLetters lo hi) := inferInstanceAs (Decidable (_ ∧ _ ∧ _))

theorem AllLetters.isAlphanumeric (h : AllLetters lo hi) (hlo : lo ≤ c.toNat)
    (hhi : c.toNat ≤ hi) : isAlphanumeric c = true := by
  obtain ⟨hascii, -, hrange⟩ := h
  obtain ⟨r, hr, hbounds⟩ := List.any_eq_true.1 hrange
  simp only [Bool.and_eq_true, Nat.ble_eq] at hbounds
  have hletter : inTable alphabeticTable c = true := by
    refine Array.any_eq_true'.2 ⟨r, Array.mem_def.2 hr, ?_⟩
    simp only [Bool.and_eq_true, decide_eq_true_eq]
    omega
  rw [Text.isAlphanumeric, isAlphabetic, if_neg (by omega), hletter, Bool.true_or]

theorem mem_members_of_holds {n : Nat} (h : r.run.holds n = true) : n ∈ r.members := by
  obtain ⟨hlo, hhi⟩ : r.1 ≤ n ∧ n ≤ r.2.1 := Run.bounds_of_holds h
  have hstep : (n - r.1) % r.2.2.1 = 0 := by
    simp only [Run.holds, Bool.and_eq_true, beq_iff_eq] at h
    exact h.2
  refine List.mem_map.2 ⟨(n - r.1) / r.2.2.1, List.mem_range.2 ?_, ?_⟩
  · exact Nat.lt_succ_of_le (Nat.div_le_div_right (by omega))
  · rw [Nat.div_mul_cancel (Nat.dvd_of_mod_eq_zero hstep)]
    omega

/-- Whatever has a small letter is a letter. -/
theorem toLowerTable_letters : ∀ r ∈ toLowerTable.toList,
    AllLetters r.1 r.2.1 ∨ ∀ n ∈ r.members, AllLetters n n := by
  decide +kernel

/-- Small letters are letters. The only one of them in ASCII is that of the Kelvin sign. -/
theorem toLowerTable_images : ∀ r ∈ toLowerTable.toList,
    AllLetters r.2.2.2 (r.apply r.2.1) ∨ r = (0x212a, 0x212a, 1, 0x6b) := by
  decide +kernel

theorem isAlphanumeric_shift : isAlphanumeric (shift toLowerTable c) = isAlphanumeric c := by
  unfold shift shiftNat
  split
  · rename_i r hr
    have hmem : r ∈ toLowerTable.toList := Array.mem_def.1 (Array.mem_of_find?_eq_some hr)
    have hholds := Array.find?_some hr
    obtain ⟨hlo, hhi⟩ : r.1 ≤ c.toNat ∧ c.toNat ≤ r.2.1 := Run.bounds_of_holds hholds
    have hc : isAlphanumeric c = true := by
      rcases toLowerTable_letters r hmem with hrun | hmembers
      · exact hrun.isAlphanumeric hlo hhi
      · exact (hmembers _ (mem_members_of_holds hholds)).isAlphanumeric (Nat.le_refl _)
          (Nat.le_refl _)
    rw [hc]
    rcases toLowerTable_images r hmem with himage | rfl
    · have hstart : r.2.2.2 ≤ r.apply c.toNat := Nat.le_add_right _ _
      have hstop : r.apply c.toNat ≤ r.apply r.2.1 := by
        simp only [Shift.apply]
        omega
      have hvalid := himage.2.1.isValidChar hstart hstop
      refine himage.isAlphanumeric ?_ ?_
      all_goals rwa [Pattern.Ranges.toNat_ofNat hvalid]
    · have hkelvin : c.toNat = 0x212a := by
        simp only at hlo hhi
        omega
      rw [hkelvin]
      decide +kernel
  · rw [Char.ofNat_toNat]

theorem lowerChar_ne_nil : lowerChar c ≠ [] := by
  unfold lowerChar
  split
  · exact List.cons_ne_nil _ _
  · split
    · exact List.cons_ne_nil _ _
    · exact List.cons_ne_nil _ _

theorem isAlphanumeric_head?_lowerChar :
    (lowerChar c).head?.any isAlphanumeric = isAlphanumeric c := by
  by_cases hascii : c.toNat < 128
  · exact forall_ascii (p := fun c => (lowerChar c).head?.any isAlphanumeric = isAlphanumeric c)
      (by decide) hascii
  · by_cases hdotted : c.toNat = 0x130
    · have hc : c = 'İ' := Char.toNat_inj.1 hdotted
      rw [hc]
      decide +kernel
    · rw [lowerChar, if_neg hascii, if_neg hdotted, List.head?_cons, Option.any_some]
      exact isAlphanumeric_shift

/-! ## Texts -/

theorem isAlphanumeric_head?_lowerFrom (before cs : List Char) :
    (lowerFrom before cs).head?.any isAlphanumeric = cs.head?.any isAlphanumeric := by
  cases cs with
  | nil => rfl
  | cons c cs =>
    rw [lowerFrom]
    by_cases hsigma : c.toNat = 0x3a3
    · -- Both small sigmas are letters, as the capital one is.
      have hletters : isAlphanumeric (Char.ofNat 0x3c2) = true ∧
          isAlphanumeric (Char.ofNat 0x3c3) = true ∧ isAlphanumeric 'Σ' = true := by
        decide +kernel
      have hc : c = 'Σ' := Char.toNat_inj.1 hsigma
      rw [if_pos hsigma, hc]
      simp only [List.cons_append, List.head?_cons, Option.any_some]
      split <;> simp only [hletters]
    · obtain ⟨d, ds, hd⟩ := List.exists_cons_of_ne_nil (lowerChar_ne_nil (c := c))
      have hhead := isAlphanumeric_head?_lowerChar (c := c)
      rw [if_neg hsigma]
      simp only [hd, List.cons_append, List.head?_cons, Option.any_some] at hhead ⊢
      exact hhead

/-- The small spelling of a longer text goes on after the spelling of its beginning, in which at
most the sigmas are others than if the text ended there. -/
theorem exists_lowerFrom_append (before cs rest : List Char) :
    ∃ small, lowerFrom before (cs ++ rest) = small ++ lowerFrom (cs.reverse ++ before) rest ∧
      small.length = (lowerFrom before cs).length ∧
      ('Σ' ∉ cs → small = lowerFrom before cs) := by
  induction cs generalizing before with
  | nil => exact ⟨[], rfl, rfl, fun _ => rfl⟩
  | cons c cs ih =>
    obtain ⟨small, hsmall, hlength, hsame⟩ := ih (c :: before)
    simp only [List.cons_append, lowerFrom, hsmall, List.reverse_cons, List.append_assoc,
      List.nil_append]
    rw [← List.append_assoc]
    refine ⟨_, rfl, ?_, fun hnone => ?_⟩
    · rw [List.length_append, List.length_append, hlength]
      split <;> rfl
    · obtain ⟨hc, hcs⟩ := not_or.1 (fun hmem => hnone (List.mem_cons.2 hmem))
      have hsigma : c.toNat ≠ 0x3a3 := fun heq => hc (Char.toNat_inj.1 heq).symm
      rw [if_neg hsigma, if_neg hsigma, hsame hcs]

end TestDesign.Text
