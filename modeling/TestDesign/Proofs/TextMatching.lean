import Mathlib.Logic.Function.Iterate
import TestDesign.Pattern.Match
import TestDesign.Proofs.ReadPatterns

/-!
# TestDesign.Proofs.TextMatching

What the matcher decides. An expression spans the part of a text between two positions
(`Expr.Spans`), by recursion on the expression and with no sets of positions: a repetition spans
what a chain of its body's spans does, of any length within the bounds.

* `Expr.Proper.accepts_iff`: an expression accepts the texts that it spans as a whole. The sets that the
  matcher works with hold the positions that spans reach (`Expr.Proper.moves_ends`); a repetition
  without a maximum stops early because steps that take no character can be left out of a chain.
-/

namespace TestDesign.Pattern

/-- A walk of `n` steps along a relation of positions. -/
inductive Chain (R : Nat → Nat → Prop) : Nat → Nat → Nat → Prop where
  | zero {i : Nat} : Chain R 0 i i
  | succ {n i k j : Nat} : R i k → Chain R n k j → Chain R (n + 1) i j

/-- The condition holds at a position, between the character before it and the one after it. -/
def Look.HoldsAt (l : Look) (text : List Char) (i : Nat) : Prop :=
  ∃ before, (none :: text.map some)[i]? = some before ∧ l.holds before text[i]? = true

/-- An atom spans nothing where its condition holds, or one of its characters. -/
def Atom.Spans (f : Flags) (text : List Char) : Atom → Nat → Nat → Prop
  | look l, i, j => j = i ∧ l.HoldsAt text i
  | a, i, j => j = i + 1 ∧ ∃ c, text[i]? = some c ∧ (a.asciiRanges f).holds c.toNat = true

namespace Expr

mutual

/-- The expression matches the part of the text from `i` to `j`. -/
def Spans (text : List Char) : Expr → Nat → Nat → Prop
  | empty, i, j => j = i
  | atom f a, i, j => a.Spans f text i j
  | repetition min max _ body, i, j =>
    ∃ n, min ≤ n ∧ (∀ m ∈ max, n ≤ m) ∧ Chain (body.Spans text) n i j
  | capture _ body, i, j => body.Spans text i j
  | concat parts, i, j => AllSpan text parts i j
  | alternation branches, i, j => AnySpans text branches i j

/-- The expressions match parts that follow one another, the first from `i`, the last to `j`. -/
def AllSpan (text : List Char) : List Expr → Nat → Nat → Prop
  | [], i, j => j = i
  | e :: es, i, j => ∃ k, e.Spans text i k ∧ AllSpan text es k j

/-- One of the expressions matches the part. -/
def AnySpans (text : List Char) : List Expr → Nat → Nat → Prop
  | [], _, _ => False
  | e :: es, i, j => e.Spans text i j ∨ AnySpans text es i j

end

end Expr

/-- The second position is not before the first one, and what lies between them is in the text. -/
def Forward (text : List Char) (i j : Nat) : Prop := i ≤ j ∧ (i < j → j ≤ text.length)

theorem Forward.refl (text : List Char) (i : Nat) : Forward text i i :=
  ⟨Nat.le_refl i, fun hlt => absurd hlt (Nat.lt_irrefl i)⟩

theorem Forward.trans {text : List Char} {i j k : Nat} (h : Forward text i k)
    (h' : Forward text k j) : Forward text i j := by
  obtain ⟨hle, hin⟩ := h
  obtain ⟨hle', hin'⟩ := h'
  refine ⟨Nat.le_trans hle hle', fun hlt => ?_⟩
  rcases Nat.eq_or_lt_of_le hle' with rfl | hlt'
  · exact hin hlt
  · exact hin' hlt'

/-! ## Walks -/

namespace Chain

variable {R : Nat → Nat → Prop} {n m i j k : Nat}

theorem append (h : Chain R n i k) (h' : Chain R m k j) : Chain R (n + m) i j := by
  induction h with
  | zero => rwa [Nat.zero_add]
  | succ hstep _ ih =>
    rw [Nat.succ_add_eq_add_succ, Nat.add_succ]
    exact .succ hstep (ih h')

theorem split (h : Chain R (n + m) i j) : ∃ k, Chain R n i k ∧ Chain R m k j := by
  induction n generalizing i with
  | zero => exact ⟨i, .zero, Nat.zero_add m ▸ h⟩
  | succ n ih =>
    rw [Nat.succ_add] at h
    cases h with
    | succ hstep h =>
      obtain ⟨k, hfirst, hsecond⟩ := ih h
      exact ⟨k, .succ hstep hfirst, hsecond⟩

theorem forward {text : List Char} (hR : ∀ i j, R i j → Forward text i j) (h : Chain R n i j) :
    Forward text i j := by
  induction h with
  | zero => exact .refl text _
  | succ hstep _ ih => exact (hR _ _ hstep).trans ih

/-- Steps that do not move can be left out. -/
theorem shorten (hR : ∀ i j, R i j → i ≤ j) (h : Chain R n i j) :
    ∃ m ≤ n, m + i ≤ j ∧ Chain R m i j := by
  induction h with
  | zero => exact ⟨0, Nat.le_refl _, Nat.le_of_eq (Nat.zero_add _), .zero⟩
  | @succ n i k j hstep _ ih =>
    obtain ⟨m, hm, hle, hchain⟩ := ih
    rcases Nat.eq_or_lt_of_le (hR i k hstep) with rfl | hlt
    · exact ⟨m, Nat.le_succ_of_le hm, hle, hchain⟩
    · exact ⟨m + 1, Nat.succ_le_succ hm, by omega, .succ hstep hchain⟩

/-- A walk with pauses is a shorter walk. -/
theorem of_pauses (h : Chain (fun i j => j = i ∨ R i j) n i j) : ∃ m ≤ n, Chain R m i j := by
  induction h with
  | zero => exact ⟨0, Nat.le_refl _, .zero⟩
  | succ hstep _ ih =>
    obtain ⟨m, hm, hchain⟩ := ih
    rcases hstep with rfl | hstep
    · exact ⟨m, Nat.le_succ_of_le hm, hchain⟩
    · exact ⟨m + 1, Nat.succ_le_succ hm, .succ hstep hchain⟩

theorem with_pauses (h : Chain R m i j) (hle : m ≤ n) :
    Chain (fun i j => j = i ∨ R i j) n i j := by
  induction h generalizing n with
  | zero =>
    clear hle
    induction n with
    | zero => exact .zero
    | succ n ih => exact .succ (.inl rfl) ih
  | succ hstep _ ih =>
    obtain ⟨n, rfl⟩ := Nat.exists_eq_add_one.2 (Nat.lt_of_lt_of_le (Nat.succ_pos _) hle)
    exact .succ (.inr hstep) (ih (Nat.le_of_succ_le_succ hle))

end Chain

/-! ## Sets of positions -/

section positions

variable {f : Positions → Positions} {R : Nat → Nat → Prop} {s : Positions} {n i j : Nat}

/-- The function sends a set to the positions that the relation reaches from it. -/
def Moves (f : Positions → Positions) (R : Nat → Nat → Prop) : Prop :=
  ∀ s j, (f s).testBit j = true ↔ ∃ i, s.testBit i = true ∧ R i j

theorem stepExactly_eq_iterate (f : Positions → Positions) (n : Nat) (s : Positions) :
    stepExactly f n s = f^[n] s := by
  induction n generalizing s with
  | zero => rfl
  | succ n ih =>
    rw [stepExactly, Function.iterate_succ_apply]
    split
    · rename_i hfixed
      rw [hfixed, Function.iterate_fixed hfixed]
    · exact ih (f s)

theorem stepUpTo_eq_stepExactly (f : Positions → Positions) (n : Nat) (s : Positions) :
    stepUpTo f n s = stepExactly (fun s => s ||| f s) n s := by
  induction n generalizing s with
  | zero => rfl
  | succ n ih =>
    rw [stepUpTo, stepExactly]
    split
    · rfl
    · exact ih _

theorem Moves.stepExactly (h : Moves f R) (n : Nat) : Moves (stepExactly f n) (Chain R n) := by
  intro s j
  rw [stepExactly_eq_iterate]
  induction n generalizing s with
  | zero =>
    constructor
    · exact fun hj => ⟨j, hj, .zero⟩
    · rintro ⟨i, hi, ⟨⟩⟩
      exact hi
  | succ n ih =>
    rw [Function.iterate_succ_apply, ih]
    constructor
    · rintro ⟨k, hk, hchain⟩
      obtain ⟨i, hi, hstep⟩ := (h s k).1 hk
      exact ⟨i, hi, .succ hstep hchain⟩
    · rintro ⟨i, hi, _ | ⟨hstep, hchain⟩⟩
      exact ⟨_, (h s _).2 ⟨i, hi, hstep⟩, hchain⟩

theorem Moves.stepUpTo (h : Moves f R) (n : Nat) :
    Moves (stepUpTo f n) fun i j => ∃ m ≤ n, Chain R m i j := by
  have hpause : Moves (fun s => s ||| f s) fun i j => j = i ∨ R i j := by
    intro s j
    rw [Nat.testBit_or, Bool.or_eq_true, h]
    constructor
    · rintro (hj | ⟨i, hi, hstep⟩)
      · exact ⟨j, hj, .inl rfl⟩
      · exact ⟨i, hi, .inr hstep⟩
    · rintro ⟨i, hi, rfl | hstep⟩
      · exact .inl hi
      · exact .inr ⟨i, hi, hstep⟩
  intro s j
  rw [stepUpTo_eq_stepExactly, hpause.stepExactly n s j]
  constructor
  · rintro ⟨i, hi, hchain⟩
    exact ⟨i, hi, hchain.of_pauses⟩
  · rintro ⟨i, hi, m, hm, hchain⟩
    exact ⟨i, hi, hchain.with_pauses hm⟩

end positions

/-! ## Atoms -/

theorem testBit_pack_zero (b : Bool) (n : Nat) : (b.toNat + 2 * n).testBit 0 = b := by
  rw [Nat.testBit_zero, Nat.add_mul_mod_self_left]
  cases b <;> rfl

theorem testBit_pack_succ (b : Bool) (n i : Nat) :
    (b.toNat + 2 * n).testBit (i + 1) = n.testBit i := by
  have hhalf : (b.toNat + 2 * n) / 2 = n := by
    have := b.toNat_le
    omega
  rw [Nat.testBit_succ, hhalf]

theorem Look.testBit_positions (l : Look) (before : Option Char) (text : List Char) (i : Nat) :
    (l.positions before text).testBit i = true ↔
      ∃ b, (before :: text.map some)[i]? = some b ∧ l.holds b text[i]? = true := by
  induction text generalizing before i with
  | nil =>
    change ((l.holds before none).toNat + 2 * 0).testBit i = true ↔ _
    cases i with
    | zero =>
      rw [testBit_pack_zero]
      simp
    | succ i =>
      rw [testBit_pack_succ]
      simp
  | cons c cs ih =>
    rw [positions]
    cases i with
    | zero =>
      rw [testBit_pack_zero]
      simp
    | succ i =>
      rw [testBit_pack_succ, ih]
      simp

theorem Atom.testBit_starts (rs : Ranges) (text : List Char) (i : Nat) :
    (starts rs text).testBit i = true ↔ ∃ c, text[i]? = some c ∧ rs.holds c.toNat = true := by
  induction text generalizing i with
  | nil => simp [starts]
  | cons c cs ih =>
    rw [starts]
    cases i with
    | zero =>
      rw [testBit_pack_zero]
      simp
    | succ i =>
      rw [testBit_pack_succ, ih]
      simp

theorem Atom.moves_ends (f : Flags) (text : List Char) (a : Atom) :
    Moves (a.ends f text) (a.Spans f text) := by
  intro s j
  cases a with
  | look l =>
    simp only [ends, Spans, Nat.testBit_and, Bool.and_eq_true, Look.testBit_positions]
    constructor
    · exact fun ⟨hj, hholds⟩ => ⟨j, hj, rfl, hholds⟩
    · rintro ⟨i, hi, rfl, hholds⟩
      exact ⟨hi, hholds⟩
  | _ =>
    simp only [ends, Spans, Nat.testBit_shiftLeft, Nat.testBit_and, Bool.and_eq_true,
      decide_eq_true_eq, testBit_starts]
    constructor
    · rintro ⟨hpos, hj, hholds⟩
      exact ⟨j - 1, hj, by omega, hholds⟩
    · rintro ⟨i, hi, rfl, hholds⟩
      exact ⟨by omega, hi, hholds⟩

theorem Atom.Spans.forward {f : Flags} {text : List Char} {a : Atom} {i j : Nat}
    (h : a.Spans f text i j) : Forward text i j := by
  cases a with
  | look l =>
    obtain ⟨rfl, -⟩ := h
    exact .refl text _
  | _ =>
    obtain ⟨rfl, c, hc, -⟩ := h
    exact ⟨Nat.le_succ _, fun _ => (List.getElem?_eq_some_iff.1 hc).1⟩

/-! ## Expressions -/

namespace Expr

variable {text : List Char} {e : Expr} {es : List Expr} {i j : Nat}

theorem AllSpan.forward (hes : ∀ e ∈ es, ∀ i j, e.Spans text i j → Forward text i j)
    (h : AllSpan text es i j) : Forward text i j := by
  induction es generalizing i with
  | nil =>
    cases h
    exact .refl text _
  | cons e es ih =>
    obtain ⟨he, hes⟩ := List.forall_mem_cons.1 hes
    obtain ⟨k, hfirst, hrest⟩ := h
    exact (he i k hfirst).trans (ih hes hrest)

theorem AnySpans.forward (hes : ∀ e ∈ es, ∀ i j, e.Spans text i j → Forward text i j)
    (h : AnySpans text es i j) : Forward text i j := by
  induction es with
  | nil => cases h
  | cons e es ih =>
    obtain ⟨he, hes⟩ := List.forall_mem_cons.1 hes
    rcases h with h | h
    · exact he i j h
    · exact ih hes h

theorem Proper.forward (he : e.Proper) : ∀ i j, e.Spans text i j → Forward text i j := by
  induction he with
  | empty =>
    rintro i _ ⟨⟩
    exact .refl text i
  | atom _ => exact fun i j h => Atom.Spans.forward h
  | repetition _ _ ih => exact fun i j ⟨n, _, _, hchain⟩ => hchain.forward ih
  | capture _ ih => exact ih
  | concat _ ih => exact fun i j h => AllSpan.forward ih h
  | alternation _ ih => exact fun i j h => AnySpans.forward ih h

theorem moves_endsAll (hes : ∀ e ∈ es, Moves (e.ends text) (e.Spans text)) :
    Moves (endsAll text es) (AllSpan text es) := by
  induction es with
  | nil =>
    intro s j
    constructor
    · exact fun hj => ⟨j, hj, rfl⟩
    · rintro ⟨i, hi, rfl⟩
      exact hi
  | cons e es ih =>
    obtain ⟨he, hes⟩ := List.forall_mem_cons.1 hes
    intro s j
    rw [endsAll, ih hes]
    constructor
    · rintro ⟨k, hk, hrest⟩
      obtain ⟨i, hi, hfirst⟩ := (he s k).1 hk
      exact ⟨i, hi, k, hfirst, hrest⟩
    · rintro ⟨i, hi, k, hfirst, hrest⟩
      exact ⟨k, (he s k).2 ⟨i, hi, hfirst⟩, hrest⟩

theorem moves_endsAny (hes : ∀ e ∈ es, Moves (e.ends text) (e.Spans text)) :
    Moves (endsAny text es) (AnySpans text es) := by
  induction es with
  | nil =>
    intro s j
    rw [endsAny, Nat.zero_testBit]
    constructor
    · exact nofun
    · rintro ⟨i, -, ⟨⟩⟩
  | cons e es ih =>
    obtain ⟨he, hes⟩ := List.forall_mem_cons.1 hes
    intro s j
    rw [endsAny, Nat.testBit_or, Bool.or_eq_true, he, ih hes]
    constructor
    · rintro (⟨i, hi, h⟩ | ⟨i, hi, h⟩)
      · exact ⟨i, hi, .inl h⟩
      · exact ⟨i, hi, .inr h⟩
    · rintro ⟨i, hi, h | h⟩
      · exact .inl ⟨i, hi, h⟩
      · exact .inr ⟨i, hi, h⟩

/-- A repetition without a maximum needs no more steps than the text has characters. -/
theorem exists_short_chain {R : Nat → Nat → Prop} {n : Nat}
    (hR : ∀ i j, R i j → Forward text i j) (h : Chain R n i j) :
    ∃ m ≤ text.length + 1, Chain R m i j := by
  obtain ⟨m, -, hle, hchain⟩ := h.shorten fun i j hij => (hR i j hij).1
  obtain ⟨hij, hin⟩ := h.forward hR
  refine ⟨m, ?_, hchain⟩
  rcases Nat.eq_or_lt_of_le hij with rfl | hlt
  · omega
  · have := hin hlt
    omega

theorem moves_repetition {min : Nat} {max : Option Nat} {greedy : Bool} (hle : ∀ m ∈ max, min ≤ m)
    (he : ∀ i j, e.Spans text i j → Forward text i j) (h : Moves (e.ends text) (e.Spans text)) :
    Moves ((repetition min max greedy e).ends text) ((repetition min max greedy e).Spans text) := by
  intro s j
  simp only [ends, Spans]
  rw [h.stepUpTo]
  simp only [h.stepExactly min s]
  constructor
  · rintro ⟨k, ⟨i, hi, hfirst⟩, m, hm, hsecond⟩
    refine ⟨i, hi, min + m, Nat.le_add_right _ _, ?_, hfirst.append hsecond⟩
    rintro top ⟨⟩
    have hmin := hle top rfl
    simp only [Option.elim] at hm
    omega
  · rintro ⟨i, hi, n, hmin, hmax, hchain⟩
    obtain ⟨r, rfl⟩ := Nat.exists_eq_add_of_le hmin
    obtain ⟨k, hfirst, hsecond⟩ := hchain.split
    refine ⟨k, ⟨i, hi, hfirst⟩, ?_⟩
    cases max with
    | none => exact exists_short_chain he hsecond
    | some top =>
      have htop := hmax top rfl
      exact ⟨r, Nat.le_sub_of_add_le' htop, hsecond⟩

/-- The matcher moves a set of positions along the spans of the expression. -/
theorem Proper.moves_ends (he : e.Proper) : Moves (e.ends text) (e.Spans text) := by
  induction he with
  | empty =>
    intro s j
    constructor
    · exact fun hj => ⟨j, hj, rfl⟩
    · rintro ⟨i, hi, rfl⟩
      exact hi
  | atom _ => exact Atom.moves_ends _ text _
  | repetition hle he ih => exact moves_repetition hle he.forward ih
  | capture _ ih => exact ih
  | concat _ ih => exact moves_endsAll ih
  | alternation _ ih => exact moves_endsAny ih

/-- An expression accepts the texts that it spans from their start to their end. -/
theorem Proper.accepts_iff (he : e.Proper) :
    e.accepts text = true ↔ e.Spans text 0 text.length := by
  rw [accepts, he.moves_ends]
  constructor
  · rintro ⟨i, hi, h⟩
    cases i with
    | zero => exact h
    | succ i => simp [Nat.testBit_succ] at hi
  · exact fun h => ⟨0, rfl, h⟩

end Expr

end TestDesign.Pattern
