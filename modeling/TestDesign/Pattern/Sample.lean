import TestDesign.Pattern.Tree
import TestDesign.Random.Draw

/-!
# TestDesign.Pattern.Sample

Drawing a text that matches a pattern: each class, choice and repetition of its tree draws once,
in order. Printable ASCII characters are preferred where a class has any, and a repetition without
a maximum stops at most eight above its minimum.
-/

namespace TestDesign.Pattern

open TestDesign.Random

namespace Ranges

/-- A character of the set; nothing is drawn from an empty one. -/
def pick (rs : Ranges) : Draw (Option Char) :=
  if h : 0 < rs.size then do
    let i ← Draw.below .w32 rs.size h
    return rs.nth? i.val
  else
    return none

/-- The printable ASCII characters of a set, or the set itself when it has none. -/
def printable (rs : Ranges) : Ranges :=
  match rs.within 0x20 0x7e with
  | [] => rs
  | found => found

end Ranges

/-- How far a repetition without a maximum goes above its minimum. -/
def spread : Nat := 8

/-- How often a repetition is drawn. -/
def drawCount (min : Nat) (max : Option Nat) : Draw Nat := do
  let i ← Draw.below .w32 (max.getD (min + spread) - min + 1) (by omega)
  return min + i.val

/-- Appends `n` times. -/
def appendTimes (f : String → Draw String) : Nat → String → Draw String
  | 0, s => return s
  | n + 1, s => do
    let s ← f s
    appendTimes f n s

namespace Tree

mutual

/-- Appends a text that matches the tree. -/
def append : Tree → String → Draw String
  | empty, s => return s
  | look _, s => return s
  | literal text, s => return s ++ String.ofList text
  | chars unicode rs, s => do
    match ← Ranges.pick (if unicode then rs.printable else rs) with
    | some c => return s.push c
    | none => return s
  | repetition min max _ body, s => do
    let n ← drawCount min max
    appendTimes body.append n s
  | capture _ body, s => body.append s
  | concat parts, s => appendAll parts s
  | alternation branches, s =>
    if h : 0 < branches.length then do
      let i ← Draw.below .w32 branches.length h
      appendNth branches i.val s
    else
      return s

def appendAll : List Tree → String → Draw String
  | [], s => return s
  | t :: ts, s => do
    let s ← t.append s
    appendAll ts s

/-- Appends a text that matches the tree at a position. -/
def appendNth : List Tree → Nat → String → Draw String
  | [], _, s => return s
  | t :: _, 0, s => t.append s
  | _ :: ts, i + 1, s => appendNth ts i s

end

/-- A text that matches the tree. -/
def sample (t : Tree) : Draw String := t.append ""

end Tree

end TestDesign.Pattern
