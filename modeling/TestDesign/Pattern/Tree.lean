import TestDesign.Pattern.Ranges
import TestDesign.Pattern.Token

/-!
# TestDesign.Pattern.Tree

Patterns in the form from which texts are drawn: every choice between characters is one class of
ranges. The functions `ofRanges`, `ofRepetition`, `ofConcat` and `ofAlternation` build trees in
their simplest form:

* a class of one character is a literal, and literals next to one another are one;
* sequences hold no sequences and nothing empty, choices hold no choices;
* a choice between characters, or between classes, is one class;
* what is common to the starts of all branches stands in front of the choice;
* what matches the empty text only is repeated at most once.
-/

namespace TestDesign.Pattern

/-- A pattern in simplified form. -/
inductive Tree where
  | empty
  | look (l : Look)
  | literal (text : List Char)
  /-- One of a set of characters; `unicode` says that the set may go beyond ASCII. -/
  | chars (unicode : Bool) (ranges : Ranges)
  | repetition (min : Nat) (max : Option Nat) (greedy : Bool) (body : Tree)
  | capture (index : Nat) (body : Tree)
  | concat (parts : List Tree)
  | alternation (branches : List Tree)
deriving BEq

namespace Tree

/-- What matches nothing at all. -/
def fail : Tree := chars false []

/-- A class of characters. -/
def ofRanges (unicode : Bool) (rs : Ranges) : Tree :=
  match rs with
  | [(lo, hi)] => if lo = hi then literal [Char.ofNat lo] else chars unicode rs
  | [] => fail
  | _ => chars unicode rs

mutual

/-- Whether the tree matches the empty text only. -/
def isBlank : Tree → Bool
  | empty => true
  | look _ => true
  | literal text => text.isEmpty
  | chars _ _ => false
  | repetition _ max _ body => body.isBlank && max.isSome
  | capture _ body => body.isBlank
  | concat parts => areBlank parts
  | alternation branches => areBlank branches

def areBlank : List Tree → Bool
  | [] => true
  | t :: ts => t.isBlank && areBlank ts

end

/-- A repetition that is neither empty nor its body. -/
def repeated (min : Nat) (max : Option Nat) (greedy : Bool) (body : Tree) : Tree :=
  if max = some 0 then empty
  else if min = 1 && max = some 1 then body
  else repetition min max greedy body

def ofRepetition (min : Nat) (max : Option Nat) (greedy : Bool) (body : Tree) : Tree :=
  if body.isBlank then
    repeated (Nat.min min 1) (some (Nat.min (max.getD 1) 1)) greedy body
  else
    repeated min max greedy body

/-- The parts of a sequence. -/
def parts : Tree → List Tree
  | empty => []
  | concat ts => ts
  | t => [t]

/-- The branches of a choice. -/
def branches : Tree → List Tree
  | alternation ts => ts
  | t => [t]

def joinLiterals : List Tree → List Tree
  | [] => []
  | literal s :: ts =>
    match joinLiterals ts with
    | literal t :: rest => literal (s ++ t) :: rest
    | rest => literal s :: rest
  | t :: ts => t :: joinLiterals ts

def ofConcat (ts : List Tree) : Tree :=
  match joinLiterals (ts.flatMap parts) with
  | [] => empty
  | [t] => t
  | ts => concat ts

def single? : Tree → Option Char
  | literal [c] => some c
  | _ => none

def class? : Tree → Option Ranges
  | chars _ rs => some rs
  | _ => none

def sequence? : Tree → Option (List Tree)
  | concat ts => some ts
  | _ => none

/-- One class for branches that are all characters or all classes. -/
def union? (ts : List Tree) : Option Tree :=
  match ts.mapM single? with
  | some cs => some (ofRanges true (Ranges.normalize (cs.map fun c => (c.toNat, c.toNat))))
  | none =>
    match ts.mapM class? with
    | some rss => some (ofRanges true (Ranges.normalize rss.flatten))
    | none => none

/-- The parts in which two sequences agree, up to the first in which they do not. -/
def common : List Tree → List Tree → List Tree
  | s :: ss, t :: ts => if s == t then s :: common ss ts else []
  | _, _ => []

/-- A choice between branches that are no choices and have no start in common. -/
def ofBranches (ts : List Tree) : Tree := (union? ts).getD (alternation ts)

/-- A choice between sequences, with the start that all of them share in front. -/
def ofSequences (rows : List (List Tree)) : Tree :=
  let shared := match rows with
    | [] => []
    | row :: rows => rows.foldl common row
  if shared.isEmpty then
    alternation (rows.map concat)
  else
    let rests := rows.map fun row => ofConcat (row.drop shared.length)
    ofConcat (shared ++ [ofBranches (rests.flatMap branches)])

def ofAlternation (ts : List Tree) : Tree :=
  match ts.flatMap branches with
  | [] => fail
  | [t] => t
  | ts =>
    match union? ts with
    | some t => t
    | none =>
      match ts.mapM sequence? with
      | some rows => ofSequences rows
      | none => alternation ts

end Tree

end TestDesign.Pattern
