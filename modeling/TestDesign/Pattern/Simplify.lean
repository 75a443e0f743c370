import TestDesign.Pattern.Expr
import TestDesign.Pattern.Tree

/-!
# TestDesign.Pattern.Simplify

From expressions to trees. Classes, the shorthands for them and the other cases of letters are
those of all characters here, unless the flag `u` is switched off: then they are classes of ASCII
characters, and what would match another character is refused.
-/

namespace TestDesign.Pattern

def isAscii (rs : Ranges) : Bool := rs.all fun r => r.2 < 0x80

namespace Literal

/-- The code of a member of a class. -/
def code? (f : Flags) (l : Literal) : Option Nat :=
  if f.unicode || l.char.toNat < 0x80 then some l.char.toNat else none

/-- A literal, or the class of its cases where case is ignored. -/
def tree? (f : Flags) (l : Literal) : Option Tree :=
  let c := l.char.toNat
  if !f.unicode && l.isByte && 0x80 ≤ c then none
  else if f.ignoreCase then
    some (Tree.ofRanges f.unicode
      (if f.unicode then Ranges.foldAll [(c, c)] else Ranges.foldAscii [(c, c)]))
  else some (.literal [l.char])

end Literal

/-- The set, or its complement; the complement of a class of ASCII characters is refused. -/
def signed? (f : Flags) (negated : Bool) (rs : Ranges) : Option Ranges :=
  if !negated then some rs
  else if f.unicode then some rs.complement
  else none

/-- The set with the other cases of its letters, where case is ignored. -/
def folded (f : Flags) (rs : Ranges) : Ranges :=
  if !f.ignoreCase then rs
  else if f.unicode then rs.foldAll
  else rs.foldAscii

namespace ClassItem

def ranges? (f : Flags) : ClassItem → Option Ranges
  | span a b =>
    match a.code? f, b.code? f with
    | some lo, some hi => some [(lo, hi)]
    | _, _ => none
  | named rs negated => signed? f negated (folded f rs)
  | shorthand s negated => signed? f negated (if f.unicode then s.unicode else s.ascii)

end ClassItem

namespace Atom

def tree? (f : Flags) : Atom → Option Tree
  | literal l => l.tree? f
  | dot =>
    if !f.unicode then none
    else if f.dotAll then some (.chars true (Ranges.complement []))
    else if f.carriageReturns then
      some (.chars true (Ranges.complement [(0x0a, 0x0a), (0x0d, 0x0d)]))
    else some (.chars true (Ranges.complement [(0x0a, 0x0a)]))
  | look l => some (.look l)
  | shorthand s negated => ((ClassItem.shorthand s negated).ranges? f).map (Tree.ofRanges f.unicode)
  | bracket negated items =>
    match items.mapM (ClassItem.ranges? f) with
    | none => none
    | some rss =>
      (signed? f negated (folded f (Ranges.normalize rss.flatten))).map (Tree.ofRanges f.unicode)

end Atom

namespace Expr

mutual

/-- The simplified form of an expression. -/
def tree? : Expr → Option Tree
  | empty => some .empty
  | atom f a => a.tree? f
  | repetition min max greedy body => body.tree?.map (Tree.ofRepetition min max greedy)
  | capture index body => body.tree?.map (Tree.capture index)
  | concat parts => (trees? parts).map Tree.ofConcat
  | alternation branches => (trees? branches).map Tree.ofAlternation

def trees? : List Expr → Option (List Tree)
  | [] => some []
  | e :: es =>
    match e.tree?, trees? es with
    | some t, some ts => some (t :: ts)
    | _, _ => none

end

end Expr

end TestDesign.Pattern
