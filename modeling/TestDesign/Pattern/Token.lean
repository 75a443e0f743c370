import TestDesign.Pattern.Ranges
import TestDesign.Text.Blank
import TestDesign.Text.WordCharacters

/-!
# TestDesign.Pattern.Token

The parts that a pattern is written with: atoms, which match one character or a position, and the
signs that combine them. Flags are resolved here: every atom carries the flags in force at its
place, and a repetition knows whether it is greedy.
-/

namespace TestDesign.Pattern

/-- What `(?imsURux)` switches. -/
structure Flags where
  ignoreCase : Bool := false
  multiLine : Bool := false
  dotAll : Bool := false
  swapGreed : Bool := false
  carriageReturns : Bool := false
  unicode : Bool := true
  verbose : Bool := false

namespace Flags

/-- Sets the flag of a letter. -/
def set? (f : Flags) (value : Bool) : Char → Option Flags
  | 'i' => some { f with ignoreCase := value }
  | 'm' => some { f with multiLine := value }
  | 's' => some { f with dotAll := value }
  | 'U' => some { f with swapGreed := value }
  | 'R' => some { f with carriageReturns := value }
  | 'u' => some { f with unicode := value }
  | 'x' => some { f with verbose := value }
  | _ => none

end Flags

/-- Edges of words. A half edge looks at one of its sides only. -/
inductive WordLook where
  | boundary
  | notBoundary
  | start
  | stop
  | startHalf
  | stopHalf
deriving DecidableEq

/-- A condition on a position. -/
inductive Look where
  | textStart
  | textEnd
  | lineStart (carriageReturns : Bool)
  | lineEnd (carriageReturns : Bool)
  | word (edge : WordLook) (unicode : Bool)
deriving DecidableEq

/-- A character of a pattern. -/
structure Literal where
  char : Char
  /-- Whether it is written as a byte, by two hexadecimal digits. -/
  isByte : Bool := false

/-- Classes with a letter of their own. -/
inductive Shorthand where
  | digit
  | blank
  | word

namespace Shorthand

def ascii : Shorthand → Ranges
  | digit => [(0x30, 0x39)]
  | blank => [(0x09, 0x0d), (0x20, 0x20)]
  | word => [(0x30, 0x39), (0x41, 0x5a), (0x5f, 0x5f), (0x61, 0x7a)]

def unicode : Shorthand → Ranges
  | digit => Ranges.normalize Text.decimalTable.toList
  | blank => Ranges.normalize Text.blankTable.toList
  | word => Ranges.normalize Text.wordRanges

end Shorthand

/-- Classes with a name of their own, inside brackets. -/
def namedClasses : List (String × Ranges) :=
  [("alnum", [(0x30, 0x39), (0x41, 0x5a), (0x61, 0x7a)]),
    ("alpha", [(0x41, 0x5a), (0x61, 0x7a)]), ("ascii", [(0x00, 0x7f)]),
    ("blank", [(0x09, 0x09), (0x20, 0x20)]), ("cntrl", [(0x00, 0x1f), (0x7f, 0x7f)]),
    ("digit", [(0x30, 0x39)]), ("graph", [(0x21, 0x7e)]), ("lower", [(0x61, 0x7a)]),
    ("print", [(0x20, 0x7e)]),
    ("punct", [(0x21, 0x2f), (0x3a, 0x40), (0x5b, 0x60), (0x7b, 0x7e)]),
    ("space", [(0x09, 0x0d), (0x20, 0x20)]), ("upper", [(0x41, 0x5a)]),
    ("word", [(0x30, 0x39), (0x41, 0x5a), (0x5f, 0x5f), (0x61, 0x7a)]),
    ("xdigit", [(0x30, 0x39), (0x41, 0x46), (0x61, 0x66)])]

/-- A part of a bracketed class. -/
inductive ClassItem where
  | span (first last : Literal)
  | named (ranges : Ranges) (negated : Bool)
  | shorthand (s : Shorthand) (negated : Bool)

/-- What matches one character or a position. -/
inductive Atom where
  | literal (l : Literal)
  | dot
  | look (l : Look)
  | shorthand (s : Shorthand) (negated : Bool)
  | bracket (negated : Bool) (items : List ClassItem)

/-- A part of a pattern. -/
inductive Token where
  | atom (flags : Flags) (a : Atom)
  /-- Opens a group; with a number, one that captures. -/
  | opening (capture : Option Nat)
  | closing
  | bar
  /-- A change of flags up to the end of the group. -/
  | directive
  | repetition (min : Nat) (max : Option Nat) (greedy : Bool)

end TestDesign.Pattern
