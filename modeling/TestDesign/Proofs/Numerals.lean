import TestDesign.Sentence.Rendering
import TestDesign.Text.Blank

/-!
# TestDesign.Proofs.Numerals

Integers as they are written: plain digits, with a minus in front of a negative one. They are read
back as they were (`integer?_toString`), and so is an integer of 64 bits as the value of a literal
(`Value.ofLiteral_toString`).
-/

namespace TestDesign

namespace Decimal

variable {c : Char} {cs : List Char}

theorem isDigit_iff : isDigit c = true ↔ 48 ≤ c.toNat ∧ c.toNat ≤ 57 := by
  simp [isDigit, Char.le_def, UInt32.le_iff_toNat_le]

theorem not_isBlank_of_isDigit (h : isDigit c = true) : Text.isBlank c = false := by
  obtain ⟨hlo, hhi⟩ := isDigit_iff.1 h
  exact Text.not_isBlank_of_visible (by omega) (by omega)

theorem isDigit_of_mem_repr (n : Nat) : ∀ c ∈ n.repr.toList, isDigit c = true := by
  intro c hc
  rw [Nat.toList_repr] at hc
  have hdigit := Nat.isDigit_of_mem_toDigits (Nat.succ_pos 9) (Nat.le_refl 10) hc
  exact isDigit_iff.2 (Char.isDigit_iff_toNat.1 hdigit)

theorem repr_ne_nil (n : Nat) : n.repr.toList ≠ [] := by
  rw [Nat.toList_repr]
  exact Nat.toDigits_ne_nil

theorem natural?_repr (n : Nat) : natural? n.repr.toList = some n := by
  have hne : n.repr.toList.isEmpty = false := List.isEmpty_eq_false_iff.2 (repr_ne_nil n)
  have hdigits : n.repr.toList.all isDigit = true := List.all_eq_true.2 (isDigit_of_mem_repr n)
  have hvalue : ofDigits n.repr.toList = n := by
    rw [Nat.toList_repr]
    exact Nat.ofDigitChars_toDigits (by decide) (by decide)
  rw [natural?, hne, hdigits, hvalue]
  rfl

/-- A digit is no sign. -/
theorem splitSign_of_isDigit (h : isDigit c = true) : splitSign (c :: cs) = (false, c :: cs) := by
  unfold splitSign
  split
  · rename_i heq
    cases heq
    exact absurd h (by decide)
  · rename_i heq
    cases heq
    exact absurd h (by decide)
  · rfl

theorem splitSign_repr (n : Nat) : splitSign n.repr.toList = (false, n.repr.toList) := by
  have hdigits := isDigit_of_mem_repr n
  cases hcs : n.repr.toList with
  | nil => rfl
  | cons c cs => exact splitSign_of_isDigit (hdigits c (hcs ▸ List.mem_cons_self))

theorem not_isBlank_of_mem_toString (n : Int) :
    ∀ c ∈ (toString n).toList, Text.isBlank c = false := by
  have hnatural (m : Nat) : ∀ c ∈ m.repr.toList, Text.isBlank c = false :=
    fun c hc => not_isBlank_of_isDigit (isDigit_of_mem_repr m c hc)
  cases n with
  | ofNat m => exact hnatural m
  | negSucc m =>
    have htext : (toString (Int.negSucc m)).toList = '-' :: (m + 1).repr.toList :=
      String.toList_append
    intro c hc
    rw [htext] at hc
    rcases List.mem_cons.1 hc with rfl | hc
    · exact Text.not_isBlank_of_visible (by decide) (by decide)
    · exact hnatural (m + 1) c hc

theorem integer?_toString (n : Int) : integer? (toString n) = some n := by
  cases n with
  | ofNat m =>
    have hread : integer? m.repr = some (m : Int) := by
      rw [integer?, splitSign_repr]
      simp only [natural?_repr]
      rfl
    exact hread
  | negSucc m =>
    have hsign : splitSign ("-" ++ (m + 1).repr).toList = (true, (m + 1).repr.toList) := by
      rw [String.toList_append]
      rfl
    have hread : integer? ("-" ++ (m + 1).repr) = some (Int.negSucc m) := by
      rw [integer?, hsign]
      simp only [natural?_repr]
      rfl
    exact hread

end Decimal

namespace Value

theorem integerWithin?_toString (n : Int64) :
    Decimal.integerWithin? minInt maxInt (toString n.toInt) = some n.toInt := by
  have hlo := n.le_toInt
  have hhi := n.toInt_lt
  rw [Decimal.integerWithin?, Decimal.integer?_toString]
  exact if_pos ⟨by unfold minInt; omega, by unfold maxInt; omega⟩

theorem ofLiteral_toString (n : Int64) : ofLiteral (toString n.toInt) = .int n := by
  rw [ofLiteral, integerWithin?_toString]
  exact congrArg int (Int64.ofInt_toInt n)

/-- An integer of 64 bits that is written plainly is read as itself. -/
theorem inSentence_ofLiteral_toString (n : Int64) :
    (ofLiteral (toString n.toInt)).inSentence = toString n.toInt := by
  rw [ofLiteral_toString]
  rfl

end Value

end TestDesign
