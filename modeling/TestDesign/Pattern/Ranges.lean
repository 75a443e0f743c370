import TestDesign.Text.Folding

/-!
# TestDesign.Pattern.Ranges

Sets of characters as lists of ranges, ends included. A list is normal when its ranges go upwards
and neither overlap nor touch; `normalize` gives the normal list of a set, and the other operations
keep lists normal.
-/

namespace TestDesign.Pattern

/-- Ranges of character codes, ends included. -/
abbrev Ranges := List (Nat × Nat)

namespace Ranges

def holds (rs : Ranges) (c : Nat) : Bool := rs.any fun r => r.1 ≤ c && c ≤ r.2

/-- Joins the ranges that overlap or touch, all of them starting no lower than the current one. -/
def joinFrom (current : Nat × Nat) : Ranges → Ranges
  | [] => [current]
  | r :: rs =>
    if r.1 ≤ current.2 + 1 then joinFrom (current.1, max current.2 r.2) rs
    else current :: joinFrom r rs

/-- The normal list of the same set. -/
def normalize (rs : Ranges) : Ranges :=
  match rs.mergeSort fun a b => a.1 ≤ b.1 with
  | [] => []
  | r :: rs => joinFrom r rs

/-- The greatest character. -/
def last : Nat := 0x10ffff

/-- The next character; none are surrogates. -/
def after (c : Nat) : Nat := if c = 0xd7ff then 0xe000 else c + 1

/-- The character before; none are surrogates. -/
def before (c : Nat) : Nat := if c = 0xe000 then 0xd7ff else c - 1

/-- The gaps above `upper`. Where two ranges enclose nothing but the surrogates, the gap is that
block with its neighbours. -/
def gapsAbove (upper : Nat) : Ranges → Ranges
  | [] => if upper < last then [(after upper, last)] else []
  | r :: rs =>
    (min (after upper) (before r.1), max (after upper) (before r.1)) :: gapsAbove r.2 rs

/-- All other characters. -/
def complement : Ranges → Ranges
  | [] => [(0, last)]
  | r :: rs => (if 0 < r.1 then [(0, before r.1)] else []) ++ gapsAbove r.2 rs

/-- The part of a range within bounds, moved. -/
def shiftPart (lo hi : Nat) (move : Nat → Nat) (r : Nat × Nat) : Ranges :=
  let start := max lo r.1
  let stop := min hi r.2
  if start ≤ stop then [(move start, move stop)] else []

/-- The set with the other case of each of its ASCII letters. -/
def foldAscii (rs : Ranges) : Ranges :=
  normalize (rs ++ rs.flatMap (shiftPart 0x41 0x5a (· + 0x20)) ++
    rs.flatMap (shiftPart 0x61 0x7a (· - 0x20)))

/-- The set with all characters that differ from one of its members in case only. -/
def foldAll (rs : Ranges) : Ranges :=
  let marked := (Text.foldPairs.filter fun p => rs.holds p.1 || rs.holds p.2).map (·.2)
  let added := Text.foldPairs.filter fun p => marked.contains p.2
  normalize (rs ++ added.flatMap fun p => [(p.1, p.1), (p.2, p.2)])

/-- How many codes the ranges have together. -/
def size : Ranges → Nat
  | [] => 0
  | r :: rs => r.2 - r.1 + 1 + size rs

/-- The part of the set between two codes. -/
def within (lo hi : Nat) (rs : Ranges) : Ranges := rs.flatMap (shiftPart lo hi id)

/-- The character at a position, counted through the ranges; a surrogate gives way to the first
character of its range. -/
def nth? : Ranges → Nat → Option Char
  | [], _ => none
  | r :: rs, i =>
    if r.1 + i ≤ r.2 then
      some (if (r.1 + i).isValidChar then Char.ofNat (r.1 + i) else Char.ofNat r.1)
    else
      nth? rs (i - (r.2 - r.1 + 1))

end Ranges

end TestDesign.Pattern
