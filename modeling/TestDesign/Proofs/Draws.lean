import TestDesign.Random.Draw

/-!
# TestDesign.Proofs.Draws

What every answer of a draw satisfies, whatever the state of the stream. A draw made of others
gets its property from theirs (`always_pure`, `always_bind`), so no proof about values looks at
words of the stream.
-/

namespace TestDesign.Random.Draw

variable {α β : Type} {P Q : α → Prop} {R : β → Prop}

/-- Every answer of the draw satisfies `P`. -/
def Always (d : Draw α) (P : α → Prop) : Prop := ∀ s : Stream, P (d.run s).1

theorem always_pure {a : α} (h : P a) : Always (pure a) P := fun _ => h

theorem always_bind {d : Draw α} {f : α → Draw β} (h : Always d P)
    (hf : ∀ a, P a → Always (f a) R) : Always (d >>= f) R := fun s => hf _ (h s) (d.run s).2

/-- The rest of a draw when nothing is known of its first answer. -/
theorem always_of_forall {d : Draw α} {f : α → Draw β} (hf : ∀ a, Always (f a) R) :
    Always (d >>= f) R := fun s => hf _ (d.run s).2

theorem Always.mono {d : Draw α} (h : Always d P) (hPQ : ∀ a, P a → Q a) : Always d Q :=
  fun s => hPQ _ (h s)

theorem Always.and {d : Draw α} (h : Always d P) (h' : Always d Q) :
    Always d fun a => P a ∧ Q a := fun s => ⟨h s, h' s⟩

theorem Always.exists {d : Draw α} (h : Always d P) : ∃ a, P a := ⟨_, h default⟩

theorem always_between (w : Width) (lo hi : Int) (h : lo ≤ hi) :
    Always (between w lo hi h) fun x => lo ≤ x.val ∧ x.val ≤ hi :=
  fun s => ((between w lo hi h).run s).1.property

theorem always_choose (xs : List α) : Always (choose xs) fun x => ∀ y ∈ x, y ∈ xs := by
  unfold choose
  split
  · refine always_of_forall fun i => always_pure ?_
    intro y hy
    cases hy
    exact List.get_mem _ _
  · refine always_pure ?_
    intro y hy
    cases hy

theorem always_choose_some {xs : List α} (h : xs ≠ []) :
    Always (choose xs) fun x => ∃ y ∈ xs, x = some y := by
  unfold choose
  rw [dif_pos (List.length_pos_iff.2 h)]
  exact always_of_forall fun i => always_pure ⟨_, List.get_mem _ _, rfl⟩

theorem always_length (min max : Nat) : Always (length min max) fun n => min ≤ n := by
  unfold length
  split
  · exact always_of_forall fun i => always_pure (Nat.le_add_right _ _)
  · exact always_pure (Nat.le_refl _)

theorem always_appendLetters (n : Nat) (s : String) :
    Always (appendLetters n s) fun t => t.length = s.length + n := by
  induction n generalizing s with
  | zero => exact always_pure rfl
  | succ n ih =>
    refine always_of_forall fun c => (ih (s.push c)).mono fun t ht => ?_
    rw [ht, String.length_push]
    omega

theorem always_text (n : Nat) : Always (text n) fun t => t.length = n :=
  (always_appendLetters n "").mono fun t ht => by rw [ht]; exact Nat.zero_add n

end TestDesign.Random.Draw
