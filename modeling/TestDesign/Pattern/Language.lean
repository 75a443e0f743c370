import TestDesign.Pattern.Tree

/-!
# TestDesign.Pattern.Language

The texts that a tree describes. Conditions on positions describe the empty text here, whatever
stands around it, so for trees without them this is the language of the pattern.
-/

namespace TestDesign.Pattern

/-- Texts that are `n` texts of a language, one after the other. -/
inductive Repeats (p : List Char → Prop) : Nat → List Char → Prop where
  | zero : Repeats p 0 []
  | succ {n : Nat} {s t : List Char} : p s → Repeats p n t → Repeats p (n + 1) (s ++ t)

namespace Tree

mutual

/-- The texts of a tree. -/
def Describes : Tree → List Char → Prop
  | empty, s => s = []
  | look _, s => s = []
  | literal text, s => s = text
  | chars _ rs, s => ∃ c, Ranges.holds rs c.toNat ∧ s = [c]
  | repetition min max _ body, s =>
    ∃ n, min ≤ n ∧ (∀ m ∈ max, n ≤ m) ∧ Repeats body.Describes n s
  | capture _ body, s => body.Describes s
  | concat parts, s => AllDescribe parts s
  | alternation branches, s => AnyDescribes branches s

/-- The texts that are one text of each tree, in order. -/
def AllDescribe : List Tree → List Char → Prop
  | [], s => s = []
  | t :: ts, s => ∃ u v, t.Describes u ∧ AllDescribe ts v ∧ s = u ++ v

/-- The texts of at least one tree. -/
def AnyDescribes : List Tree → List Char → Prop
  | [], _ => False
  | t :: ts, s => t.Describes s ∨ AnyDescribes ts s

end

end Tree

end TestDesign.Pattern
