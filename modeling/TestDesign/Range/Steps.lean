import TestDesign.Data.Error
import TestDesign.Random.Draw

/-!
# TestDesign.Range.Steps

Ranges over values that lie at equal steps. Such a value has an index: an integer and a length are
their own index, dates count days, times and moments count seconds. Everything about a range is
said with indexes, which are integers without limits, so no range is too wide.

A domain has a lowest and a greatest index. Declared bounds outside the domain are moved to its
ends, except that in a domain that is open above a large maximum moves the top of the range one
step beyond itself. The fields of `StepRange` keep the resulting order: lowest value, minimum,
maximum, top.
-/

namespace TestDesign

open Calendar TestDesign.Random

/-- Values at equal steps. -/
structure StepDomain (α : Type) where
  lowest : Int
  greatest : Int
  zero : Int
  /-- Whether a declared maximum may lie above the domain. -/
  isOpenAbove : Bool := false
  index : α → Int
  /-- The value of an index; an index outside the domain has the value of the nearest end. -/
  value : Int → α
  le : α → α → Bool
  text : α → String
  lowest_le_greatest : lowest ≤ greatest := by decide

namespace StepDomain

/-- The nearest number between two bounds. -/
def clamp (lo hi i : Int) : Int := if i < lo then lo else if hi < i then hi else i

def integers : StepDomain Int64 where
  lowest := Value.minInt
  greatest := Value.maxInt
  zero := 0
  index n := n.toInt
  value i := Int64.ofInt (clamp Value.minInt Value.maxInt i)
  le a b := a.toInt ≤ b.toInt
  text n := toString n.toInt

/-- Lengths of strings. Beyond the domain they end where words of 64 bits do. -/
def lengths : StepDomain UInt64 where
  lowest := 0
  greatest := 10000
  zero := 0
  isOpenAbove := true
  index n := n.toNat
  value i := UInt64.ofNat (clamp 0 18446744073709551615 i).toNat
  le a b := a.toNat ≤ b.toNat
  text n := toString n.toNat

/-- Days from year 1 to year 9999. -/
def dates : StepDomain Date where
  lowest := 1
  greatest := 3652059
  zero := 1
  index d := d.number
  value i := .ofNumber (clamp 1 3652059 i)
  le a b := a.number ≤ b.number
  text := Date.text

/-- Seconds of a day. -/
def times : StepDomain Time where
  lowest := 0
  greatest := 86399
  zero := 0
  index t := t.number
  value i := .ofNumber (clamp 0 86399 i)
  le := Time.le
  text := Time.text

/-- Seconds from year 1 to year 9999. -/
def moments : StepDomain Moment where
  lowest := -62135596800
  greatest := 253402300799
  zero := -62135596800
  index m := m.number
  value i := .ofNumber (clamp (-62135596800) 253402300799 i)
  le := Moment.le
  text := Moment.text

end StepDomain

/-- A range of a domain. -/
structure StepRange {α : Type} (d : StepDomain α) where
  min : Int
  max : Int
  /-- The greatest index that counts as a value above the range. -/
  top : Int
  lowest_le_min : d.lowest ≤ min
  min_le_max : min ≤ max
  max_le_top : max ≤ top

namespace StepRange

variable {α : Type} {d : StepDomain α}

/-- The top of a range with a declared maximum. -/
def topFor (d : StepDomain α) : Option Int → Int
  | some i => if d.isOpenAbove && d.greatest ≤ i then i + 1 else d.greatest
  | none => d.greatest

theorem greatest_le_topFor (d : StepDomain α) (m : Option Int) : d.greatest ≤ topFor d m := by
  unfold topFor
  split
  · split
    · simp_all
      omega
    · omega
  · omega

/-- The index of a declared bound inside the domain, or the default. -/
def boundFor (d : StepDomain α) (top default : Int) : Option Int → Int
  | some i => StepDomain.clamp d.lowest top i
  | none => default

theorem boundFor_mem (d : StepDomain α) {top default : Int} (b : Option Int)
    (h : d.lowest ≤ top) (h₁ : d.lowest ≤ default) (h₂ : default ≤ top) :
    d.lowest ≤ boundFor d top default b ∧ boundFor d top default b ≤ top := by
  unfold boundFor StepDomain.clamp
  split
  · split
    · omega
    · split <;> omega
  · omega

/-- The range of declared bounds. -/
def of (d : StepDomain α) (min max : Option α) : Except DataError (StepRange d) :=
  let top := topFor d (max.map d.index)
  let lo := boundFor d top d.lowest (min.map d.index)
  let hi := boundFor d top d.greatest (max.map d.index)
  if h : lo ≤ hi then
    have ht := greatest_le_topFor d (max.map d.index)
    have hd := d.lowest_le_greatest
    .ok ⟨lo, hi, top,
      (boundFor_mem d (min.map d.index) (Int.le_trans hd ht) (Int.le_refl _)
        (Int.le_trans hd ht)).1, h,
      (boundFor_mem d (max.map d.index) (Int.le_trans hd ht) hd ht).2⟩
  else
    .error (.invalidRange (d.text (d.value lo)) (d.text (d.value hi)))

/-- The whole domain. -/
def whole (d : StepDomain α) : StepRange d :=
  ⟨d.lowest, d.greatest, d.greatest, Int.le_refl _, d.lowest_le_greatest, Int.le_refl _⟩

variable (r : StepRange d)

def hasBelow : Bool := d.lowest < r.min

/-- Whether there are values strictly between the bounds. -/
def hasBetween : Bool := r.min + 1 < r.max

def hasAbove : Bool := r.max < r.top

/-- The index at a boundary that is not random. Without values between the bounds, what lies
between them is the minimum. -/
def fixedIndex? : Boundary → Option Int
  | .lowest => some d.lowest
  | .justBelowMin => some (if r.min - 1 < d.lowest then d.lowest else r.min - 1)
  | .min => some r.min
  | .justAboveMin => some (if r.hasBetween then r.min + 1 else r.min)
  | .zero => some d.zero
  | .median => some (if r.hasBetween then r.min + (r.max - r.min) / 2 else r.min)
  | .justBelowMax => some (if r.hasBetween then r.max - 1 else r.min)
  | .max => some r.max
  | .justAboveMax => some (if r.top < r.max + 1 then r.top else r.max + 1)
  | .greatest => some r.top
  | .randomBelowMin | .randomBetweenMinMax | .randomAboveMax => none

/-- The index at a boundary. -/
def indexAt (b : Boundary) : Draw Int :=
  match b with
  | .randomBelowMin =>
    if h : d.lowest ≤ r.min - 1 then do return (← Draw.between .w128 d.lowest (r.min - 1) h).val
    else return r.min
  | .randomBetweenMinMax =>
    if h : r.min + 1 ≤ r.max - 1 then do
      return (← Draw.between .w128 (r.min + 1) (r.max - 1) h).val
    else return r.min
  | .randomAboveMax =>
    if h : r.max + 1 ≤ r.top then do return (← Draw.between .w128 (r.max + 1) r.top h).val
    else return r.max
  | b => return (r.fixedIndex? b).getD r.min

/-- The value at a boundary. -/
def drawAt (b : Boundary) : Draw α := do return d.value (← r.indexAt b)

/-- The value at a boundary that is not random. -/
def fixedAt? (b : Boundary) : Option α := (r.fixedIndex? b).map d.value

/-- Whether a value lies between the bounds. -/
def contains (x : α) : Bool := d.le (d.value r.min) x && d.le x (d.value r.max)

/-- Whether the value at a boundary lies between the bounds; random values do not count. -/
def holds (b : Boundary) : Bool := (r.fixedAt? b).any r.contains

end StepRange

end TestDesign
