import TestDesign.Pattern.Expr

/-!
# TestDesign.Pattern.Match

Matching a text with a pattern. Classes, the shorthands for them and word edges know ASCII only,
and case is ignored for ASCII letters only.

The positions of a text that a match can reach are a set, written as a number: bit `i` stands for
the position after `i` characters. An expression sends the positions where it may start to those
where it may end.
-/

namespace TestDesign.Pattern

/-- A set of positions. -/
abbrev Positions := Nat

namespace Look

def isWordChar (c : Option Char) : Bool :=
  match c with
  | some c => Ranges.holds Shorthand.word.ascii c.toNat
  | none => false

/-- Whether the condition holds between two characters; at an end of the text there is none. -/
def holds (l : Look) (before after : Option Char) : Bool :=
  match l with
  | textStart => before.isNone
  | textEnd => after.isNone
  | lineStart false => before.isNone || before == some '\n'
  | lineEnd false => after.isNone || after == some '\n'
  | lineStart true =>
    before.isNone || before == some '\n' || (before == some '\r' && after != some '\n')
  | lineEnd true =>
    after.isNone || after == some '\r' || (after == some '\n' && before != some '\r')
  | word edge _ =>
    let inside := isWordChar before
    let ahead := isWordChar after
    match edge with
    | .boundary => inside != ahead
    | .notBoundary => inside == ahead
    | .start => !inside && ahead
    | .stop => inside && !ahead
    | .startHalf => !inside
    | .stopHalf => !ahead

/-- The positions where the condition holds. -/
def positions (l : Look) : Option Char → List Char → Positions
  | before, [] => (l.holds before none).toNat
  | before, c :: cs => (l.holds before (some c)).toNat + 2 * positions l (some c) cs

end Look

namespace ClassItem

def asciiRanges : ClassItem → Ranges
  | span a b => [(a.char.toNat, b.char.toNat)]
  | named rs negated => if negated then rs.complement else rs
  | shorthand s negated => if negated then s.ascii.complement else s.ascii

end ClassItem

namespace Atom

/-- The characters that an atom matches; none for a condition on a position. -/
def asciiRanges (f : Flags) : Atom → Ranges
  | literal l =>
    let rs : Ranges := [(l.char.toNat, l.char.toNat)]
    if f.ignoreCase then rs.foldAscii else rs
  | dot =>
    if f.dotAll then Ranges.complement []
    else if f.carriageReturns then Ranges.complement [(0x0a, 0x0a), (0x0d, 0x0d)]
    else Ranges.complement [(0x0a, 0x0a)]
  | look _ => []
  | shorthand s negated => (ClassItem.shorthand s negated).asciiRanges
  | bracket negated items =>
    let rs := Ranges.normalize (items.flatMap ClassItem.asciiRanges)
    let rs := if f.ignoreCase then rs.foldAscii else rs
    if negated then rs.complement else rs

/-- The positions before characters of the set. -/
def starts (rs : Ranges) : List Char → Positions
  | [] => 0
  | c :: cs => (rs.holds c.toNat).toNat + 2 * starts rs cs

def ends (f : Flags) (text : List Char) (a : Atom) (s : Positions) : Positions :=
  match a with
  | look l => s &&& l.positions none text
  | a => (s &&& starts (a.asciiRanges f) text) <<< 1

end Atom

/-- Applies `f` a number of times, or until nothing changes. -/
def stepExactly (f : Positions → Positions) : Nat → Positions → Positions
  | 0, s => s
  | n + 1, s =>
    let t := f s
    if t = s then s else stepExactly f n t

/-- Applies `f` up to a number of times, or until nothing is added. -/
def stepUpTo (f : Positions → Positions) : Nat → Positions → Positions
  | 0, s => s
  | n + 1, s =>
    let t := s ||| f s
    if t = s then s else stepUpTo f n t

namespace Expr

mutual

/-- The positions where the expression may end when it starts at one of the given ones. -/
def ends (text : List Char) : Expr → Positions → Positions
  | empty, s => s
  | atom f a, s => a.ends f text s
  | repetition min max _ body, s =>
    let step := body.ends text
    stepUpTo step (max.elim (text.length + 1) (· - min)) (stepExactly step min s)
  | capture _ body, s => body.ends text s
  | concat parts, s => endsAll text parts s
  | alternation branches, s => endsAny text branches s

def endsAll (text : List Char) : List Expr → Positions → Positions
  | [], s => s
  | e :: es, s => endsAll text es (e.ends text s)

def endsAny (text : List Char) : List Expr → Positions → Positions
  | [], _ => 0
  | e :: es, s => e.ends text s ||| endsAny text es s

end

/-- Whether the expression matches the whole text. -/
def accepts (e : Expr) (text : List Char) : Bool := (e.ends text 1).testBit text.length

end Expr

end TestDesign.Pattern
