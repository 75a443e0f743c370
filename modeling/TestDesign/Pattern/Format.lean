import TestDesign.Pattern.Limits
import TestDesign.Pattern.Sample
import TestDesign.Pattern.Simplify

/-!
# TestDesign.Pattern.Format

Formats: patterns that whole texts have to match, with texts that do and texts that do not.
-/

namespace TestDesign.Pattern

open TestDesign.Random

/-- A pattern in the two forms that are needed. -/
structure Format where
  pattern : String
  /-- The form from which matching texts are drawn. -/
  tree : Tree
  /-- The form that texts are matched with. -/
  matcher : Expr

namespace Format

/-- The format that a pattern writes, if it is not refused. -/
def of? (pattern : String) : Option Format :=
  match (Expr.parse? pattern.toList).bind Expr.tree?, matcher? pattern with
  | some tree, some matcher => some { pattern, tree, matcher }
  | _, _ => none

/-- Whether the whole text matches. -/
def isMatch (f : Format) (text : String) : Bool := f.matcher.accepts text.toList

/-- A text that matches. -/
def valid (f : Format) : Draw String := f.tree.sample

/-- Characters that spoil a matching text. -/
def symbols : List Char := ['!', '@', '#', '$', '%', '&', '*', '?', ' ']

/-- A matching text with a symbol put anywhere into it. -/
def spoiled (f : Format) : Draw String := do
  let cs := (← f.valid).toList
  let i ← Draw.length 0 cs.length
  let symbol ← Draw.choose symbols
  return String.ofList (cs.take i ++ symbol.getD '!' :: cs.drop i)

/-- What is tried to find a text that does not match: first the empty text, then spoiled texts and
random ones in turn. -/
def candidate (f : Format) (min max : Nat) (attempt : Nat) : Draw String :=
  if attempt = 0 then return ""
  else if attempt % 2 = 1 then f.spoiled
  else Draw.textBetween (Nat.max min 1) (Nat.max max 1)

/-- The first of the next candidates that does not match. -/
def firstMismatch (f : Format) (min max : Nat) : (tries attempt : Nat) → Draw (Option String)
  | 0, _ => return none
  | tries + 1, attempt => do
    let text ← f.candidate min max attempt
    if f.isMatch text then f.firstMismatch min max tries (attempt + 1) else return some text

/-- A text that does not match, if one of the candidates does not. -/
def invalid (f : Format) (tries min max : Nat) : Draw (Option String) :=
  f.firstMismatch min max tries 0

end Format

/-- Whether a whole text matches a pattern; none when the pattern is refused. -/
def matches? (pattern text : String) : Option Bool :=
  (matcher? pattern).map (·.accepts text.toList)

end TestDesign.Pattern
