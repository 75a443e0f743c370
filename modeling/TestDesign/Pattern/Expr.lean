import TestDesign.Pattern.Scan

/-!
# TestDesign.Pattern.Expr

Patterns as expressions. Groups that do not capture leave no trace but their structure; a sequence
of one part, or a choice between one branch, is that part itself.
-/

namespace TestDesign.Pattern

/-- A pattern. -/
inductive Expr where
  | empty
  | atom (flags : Flags) (a : Atom)
  | repetition (min : Nat) (max : Option Nat) (greedy : Bool) (body : Expr)
  | capture (index : Nat) (body : Expr)
  | concat (parts : List Expr)
  | alternation (branches : List Expr)

namespace Expr

def ofParts : List Expr → Expr
  | [] => empty
  | [e] => e
  | parts => concat parts

def ofBranches : List Expr → Expr
  | [e] => e
  | branches => alternation branches

/-- A group whose end has not been read. -/
structure Level where
  capture : Option Nat := none
  /-- The branches before the current one, last one first. -/
  branches : List Expr := []
  /-- The parts of the current branch, last one first. -/
  parts : List Expr := []
  /-- Whether the last part may be repeated: there is one, and no change of flags stands behind
  it. -/
  repeatable : Bool := false

namespace Level

def push (l : Level) (e : Expr) : Level := { l with parts := e :: l.parts, repeatable := true }

def bar (l : Level) : Level :=
  { l with branches := ofParts l.parts.reverse :: l.branches, parts := [], repeatable := false }

def repeatLast? (l : Level) (min : Nat) (max : Option Nat) (greedy : Bool) : Option Level :=
  match l.repeatable, l.parts with
  | true, e :: parts => some { l with parts := repetition min max greedy e :: parts }
  | _, _ => none

def close (l : Level) : Expr :=
  let body := ofBranches (l.bar.branches.reverse)
  match l.capture with
  | some index => Expr.capture index body
  | none => body

end Level

/-- How deep groups may stand in one another. -/
def nestLimit : Nat := 50

/-- The expression with the given tokens in front of what is open. -/
def build : Level → List Level → List Token → Option Expr
  | level, [], [] => some level.close
  | _, _ :: _, [] => none
  | level, outer, .atom f a :: ts => build (level.push (.atom f a)) outer ts
  | level, outer, .opening index :: ts =>
    if outer.length < nestLimit then build { capture := index } (level :: outer) ts else none
  | _, [], .closing :: _ => none
  | level, l :: outer, .closing :: ts => build (l.push level.close) outer ts
  | level, outer, .bar :: ts => build level.bar outer ts
  | level, outer, .directive :: ts => build { level with repeatable := false } outer ts
  | level, outer, .repetition min max greedy :: ts =>
    match level.repeatLast? min max greedy with
    | some level => build level outer ts
    | none => none

/-- The expression that a pattern writes. -/
def parse? (pattern : List Char) : Option Expr := (tokens? pattern).bind (build {} [])

end Expr

end TestDesign.Pattern
