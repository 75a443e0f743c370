import TestDesign.Assembly.PreTestCase
import TestDesign.Pattern.Format

/-!
# TestDesign.Scenario.Expectation

What a pre-test-case is expected to look like.
-/

namespace TestDesign

/-- Expectations about one pre-test-case; those that are absent demand nothing. -/
structure Expectation where
  /-- All lines, in order. -/
  lines : Option (List String) := none
  /-- Single lines, by their positions. -/
  line : List (Nat × String) := []
  /-- Patterns for single lines, by the positions of the lines. -/
  pattern : List (Nat × String) := []
  /-- All lines of the checks, in order. -/
  oracles : Option (List String) := none
  /-- Whether some element gets an invalid value. -/
  invalid : Option Bool := none

/-- Which expectation is not met. -/
inductive Mismatch where
  | lines
  | line (index : Nat)
  | invalidPattern
  | pattern (index : Nat) (pattern : String)
  | oracles
  | invalid
  /-- There is no such pre-test-case, but only the given number of them. -/
  | absent (count : Nat)
deriving DecidableEq

namespace Mismatch

def message : Mismatch → String
  | lines => "lines mismatch"
  | line index => "line " ++ toString index ++ " mismatch"
  | invalidPattern => "invalid regex pattern"
  | pattern index p => "line " ++ toString index ++ " does not match '" ++ p ++ "'"
  | oracles => "oracles mismatch"
  | invalid => "expected invalid data"
  | absent count => "only " ++ toString count ++ " pre-test-cases"

end Mismatch

namespace Expectation

def checkThat (met : Bool) (m : Mismatch) : Except Mismatch Unit :=
  if met then .ok () else .error m

def checkPattern (lines : List String) (index : Nat) (pattern : String) : Except Mismatch Unit :=
  match Pattern.matcher? pattern with
  | none => .error .invalidPattern
  | some m => checkThat (lines[index]?.any fun s => m.accepts s.toList) (.pattern index pattern)

def checkLines (lines : List String) : List (Nat × String) → Except Mismatch Unit
  | [] => .ok ()
  | (i, expected) :: rest => do
    checkThat (lines[i]? == some expected) (.line i)
    checkLines lines rest

def checkPatterns (lines : List String) : List (Nat × String) → Except Mismatch Unit
  | [] => .ok ()
  | (i, pattern) :: rest => do
    checkPattern lines i pattern
    checkPatterns lines rest

/-- The first expectation that the pre-test-case does not meet. -/
def check (x : Expectation) (p : PreTestCase) : Except Mismatch Unit := do
  let lines := p.lines
  checkThat (x.lines.all (· == lines)) .lines
  checkLines lines x.line
  checkPatterns lines x.pattern
  checkThat (x.oracles.all (· == p.oracleLines)) .oracles
  checkThat (x.invalid.all (· == p.hasInvalid)) .invalid

end Expectation

end TestDesign
