import TestDesign.Pattern.Match

/-!
# TestDesign.Pattern.Limits

Patterns that can be matched. A pattern is refused when its expression nests deeper than groups
may, or when its states would need more than ten mebibytes: thirty-two bytes a state, eight a
range of characters, and four a way out of a branching.
-/

namespace TestDesign.Pattern

namespace Expr

mutual

/-- How deep the expression nests. -/
def height : Expr → Nat
  | empty => 0
  | atom _ _ => 0
  | repetition min max _ body =>
    if max = some 0 then 0
    else if min = 1 && max = some 1 then body.height
    else body.height + 1
  | capture _ body => body.height + 1
  | concat parts => heights parts + 1
  | alternation branches => heights branches + 1

def heights : List Expr → Nat
  | [] => 0
  | e :: es => max e.height (heights es)

end

/-- Bytes of a state. -/
def stateSize : Nat := 32

/-- Bytes of a state that branches in two. -/
def forkSize : Nat := stateSize + 8

mutual

/-- Whether the expression may match the empty text. -/
def canBeEmpty : Expr → Bool
  | empty => true
  | atom _ (.look _) => true
  | atom _ _ => false
  | repetition min _ _ body => min = 0 || body.canBeEmpty
  | capture _ body => body.canBeEmpty
  | concat parts => allCanBeEmpty parts
  | alternation branches => anyCanBeEmpty branches

def allCanBeEmpty : List Expr → Bool
  | [] => true
  | e :: es => e.canBeEmpty && allCanBeEmpty es

def anyCanBeEmpty : List Expr → Bool
  | [] => false
  | e :: es => e.canBeEmpty || anyCanBeEmpty es

end

/-- Bytes of the states of an atom. -/
def atomSize (f : Flags) (a : Atom) : Nat :=
  match a.asciiRanges f with
  | [] => stateSize
  | [(lo, hi)] => match a with
    | .bracket .. | .shorthand .. | .dot => stateSize + 8
    | _ => if lo = hi then stateSize else stateSize + 8
  | rs => stateSize + 8 * rs.length

mutual

/-- Bytes of the states of an expression. -/
def size : Expr → Nat
  | empty => stateSize
  | atom f a => atomSize f a
  | repetition min max _ body =>
    match max with
    | some max =>
      if min = 0 && max = 1 then forkSize + body.size + stateSize
      else if min = max then Nat.max (min * body.size) stateSize
      else Nat.max (min * body.size) stateSize + stateSize + (max - min) * (forkSize + body.size)
    | none =>
      if min = 0 then
        forkSize + body.size + if body.canBeEmpty then forkSize + stateSize else 0
      else min * body.size + forkSize
  | capture _ body => 2 * stateSize + body.size
  | concat parts => sizes parts
  | alternation branches => 2 * stateSize + 4 * branches.length + sizes branches

def sizes : List Expr → Nat
  | [] => 0
  | e :: es => e.size + sizes es

end

/-- The greatest size of all states together. -/
def sizeLimit : Nat := 10 * twoTo 20

/-- Whether an expression can be matched: a match has two states for the text as a whole and one
for its end. -/
def isWithinLimits (e : Expr) : Bool :=
  e.height ≤ nestLimit && 3 * stateSize + e.size ≤ sizeLimit

end Expr

/-- A pattern that has to match a whole text. -/
def anchored (pattern : String) : List Char :=
  "^(?:".toList ++ pattern.toList ++ ")$".toList

/-- The expression that matches whole texts with a pattern. -/
def matcher? (pattern : String) : Option Expr :=
  (Expr.parse? (anchored pattern)).filter Expr.isWithinLimits

end TestDesign.Pattern
