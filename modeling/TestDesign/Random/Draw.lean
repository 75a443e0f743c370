import TestDesign.Random.Stream

/-!
# TestDesign.Random.Draw

Random decisions as state actions on a stream. A number below a bound is drawn by widening
multiplication: a word `v` of `b` bits gives the high half of `v * n`, and is refused when the low
half falls outside the largest multiple of `n` that fits, so every answer is equally likely.

Refused words are replaced at most `attempts` times, which a stream reaches with a probability
below 2^-200; after that the smallest answer stands. The bounds hold in every case: they are part
of the types (`below` answers a `Fin`, `between` a number with its two inequalities).
-/

namespace TestDesign.Random

/-- A random decision: takes words from the stream and leaves the rest. -/
abbrev Draw (α : Type) := StateM Stream α

namespace Draw

/-- A word of 32 bits. -/
def word32 : Draw UInt32 := fun s => s.next

/-- A word of 64 bits; the low half comes first. -/
def word64 : Draw UInt64 := do
  let low ← word32
  let high ← word32
  return (high.toUInt64 <<< 32) ||| low.toUInt64

end Draw

/-- How many bits a draw takes from the stream at a time. -/
inductive Width where
  | w32
  | w64
  | w128
deriving DecidableEq

namespace Width

def bits : Width → Nat
  | w32 => 32
  | w64 => 64
  | w128 => 128

/-- A word of the width; the low half comes first. -/
def word : (w : Width) → Draw (Fin (twoTo w.bits))
  | w32 => do
    let x ← Draw.word32
    return x.toBitVec.toFin
  | w64 => do
    let x ← Draw.word64
    return x.toBitVec.toFin
  | w128 => do
    let low ← Draw.word64
    let high ← Draw.word64
    return (high.toBitVec ++ low.toBitVec).toFin

/-- Low halves up to this bound are accepted in a draw below `n`. -/
def zone (w : Width) (n : Nat) : Nat := n * twoTo (w.bits - (n.log2 + 1)) - 1

end Width

namespace Draw

/-- How often a refused word is replaced. -/
def attempts : Nat := 256

theorem high_lt {b v n : Nat} (hv : v < twoTo b) (h : 0 < n) : v * n / twoTo b < n :=
  Nat.div_lt_of_lt_mul (Nat.mul_lt_mul_of_pos_right hv h)

/-- Draws until a word is accepted. -/
def retry (w : Width) (n : Nat) (h : 0 < n) : Nat → Draw (Fin n)
  | 0 => return ⟨0, h⟩
  | k + 1 => do
    let v ← w.word
    if v.val * n % twoTo w.bits ≤ w.zone n then
      return ⟨v.val * n / twoTo w.bits, high_lt v.isLt h⟩
    else
      retry w n h k

/-- A number below `n`, all equally likely. -/
def below (w : Width) (n : Nat) (h : 0 < n) : Draw (Fin n) := retry w n h attempts

/-- An integer in a closed interval. -/
def between (w : Width) (lo hi : Int) (h : lo ≤ hi) : Draw { x : Int // lo ≤ x ∧ x ≤ hi } := do
  let i ← below w (hi - lo + 1).toNat (by omega)
  return ⟨lo + i.val, by have := i.isLt; omega⟩

/-- A natural number from `min` to `max`; `min`, without a draw, when `max` is not above it. -/
def length (min max : Nat) : Draw Nat :=
  if h : min < max then do
    let i ← below .w64 (max - min + 1) (by omega)
    return min + i.val
  else
    return min

/-- An element of a list, all positions equally likely; nothing is drawn for the empty list. -/
def choose {α : Type} (xs : List α) : Draw (Option α) :=
  if h : 0 < xs.length then do
    let i ← below .w32 xs.length h
    return some (xs.get i)
  else
    return none

/-- A number in [0, 1), a multiple of 2^-53. -/
def unit : Draw Float := do
  let w ← word64
  return (w >>> 11).toFloat * Float.ofBits 0x3ca0000000000000

def coin : Draw Bool := do
  let w ← word32
  return (w >>> 31) == 1

/-- The characters of random texts. -/
def letters : List Char := "ABCDEFGHIJKLMNOPQRSTUVWXYZabcdefghijklmnopqrstuvwxyz0123456789".toList

def letterTable : Array Char := letters.toArray

/-- A letter or digit: the top six bits of a word, drawn again while there is no such letter. -/
def letterWithin : Nat → Draw Char
  | 0 => return 'A'
  | k + 1 => do
    let w ← word32
    match letterTable[(w >>> 26).toNat]? with
    | some c => return c
    | none => letterWithin k

def letter : Draw Char := letterWithin attempts

/-- Appends `n` random letters and digits. -/
def appendLetters : Nat → String → Draw String
  | 0, s => return s
  | n + 1, s => do
    let c ← letter
    appendLetters n (s.push c)

/-- A random text of `n` letters and digits. -/
def text (n : Nat) : Draw String := appendLetters n ""

/-- A random text whose length lies between the bounds. -/
def textBetween (min max : Nat) : Draw String := do
  let n ← length min max
  text n

end Draw

end TestDesign.Random
