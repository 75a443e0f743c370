/-!
# TestDesign.Text.Table

Sets and maps of characters, given as tables: ranges of characters, runs with a step, and runs
that a map shifts as a whole.
-/

namespace TestDesign.Text

/-- Whether one of the ranges, ends included, holds the character. -/
def inTable (table : Array (Nat × Nat)) (c : Char) : Bool :=
  table.any fun r => r.1 ≤ c.toNat && c.toNat ≤ r.2

/-- The characters `start`, `start + step`, … up to `stop`, as a triple. -/
abbrev Run := Nat × Nat × Nat

def Run.holds (r : Run) (c : Nat) : Bool :=
  r.1 ≤ c && c ≤ r.2.1 && (c - r.1) % r.2.2 == 0

def inRuns (table : Array Run) (c : Char) : Bool := table.any (·.holds c.toNat)

/-- A run, and the character that its first one maps to. -/
abbrev Shift := Nat × Nat × Nat × Nat

namespace Shift

def run (r : Shift) : Run := (r.1, r.2.1, r.2.2.1)

/-- The image of a character of the run: as far from the first image as it is from the first
character. -/
def apply (r : Shift) (c : Nat) : Nat := r.2.2.2 + (c - r.1)

/-- The characters of the run. -/
def members (r : Shift) : List Nat :=
  (List.range ((r.2.1 - r.1) / r.2.2.1 + 1)).map fun i => r.1 + i * r.2.2.1

end Shift

/-- The character that the table maps `c` to; `c` itself when no run holds it. -/
def shiftNat (table : Array Shift) (c : Nat) : Nat :=
  match table.find? (·.run.holds c) with
  | some r => r.apply c
  | none => c

def shift (table : Array Shift) (c : Char) : Char := Char.ofNat (shiftNat table c.toNat)

end TestDesign.Text
