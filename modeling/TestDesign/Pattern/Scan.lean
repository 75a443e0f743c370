import TestDesign.Decimal.Hexadecimal
import TestDesign.Pattern.Token
import TestDesign.Text.Blank

/-!
# TestDesign.Pattern.Scan

Reading the tokens of a pattern. A scan takes characters from the front of the rest of the
pattern; it has no result where the pattern is refused.

Refused are, beside what is malformed, look-around groups, back references, properties of
characters, classes within classes and operations on classes. In verbose mode blanks stand for
nothing, and so does the rest of a line after `#`.
-/

namespace TestDesign.Pattern

/-- Takes characters from the rest of a pattern. -/
abbrev Scan := StateT (List Char) Option

/-- The rest after blanks and comments; the flag says that it starts inside a comment. -/
def skipBlanks : Bool → List Char → List Char
  | _, [] => []
  | true, c :: cs => skipBlanks (c != '\n') cs
  | false, c :: cs =>
    if Text.isBlank c then skipBlanks false cs
    else if c = '#' then skipBlanks true cs
    else c :: cs

namespace Scan

def next : Scan Char := do
  match ← get with
  | c :: cs =>
    set cs
    return c
  | [] => failure

/-- Takes the given characters if they stand next. -/
def accept (word : String) : Scan Bool := do
  let cs ← get
  if word.toList.isPrefixOf cs then
    set (cs.drop word.length)
    return true
  else
    return false

/-- What follows blanks and comments, in verbose mode; else the rest itself. -/
def significant (f : Flags) (cs : List Char) : List Char :=
  if f.verbose then skipBlanks false cs else cs

def skip (f : Flags) : Scan Unit := modify (significant f)

/-- The longest run of characters that satisfy a test. -/
def takeWhile (p : Char → Bool) : Scan (List Char) := do
  let cs ← get
  set (cs.dropWhile p)
  return cs.takeWhile p

/-- Requires a value. -/
def require {α : Type} (x : Option α) : Scan α := fun cs => x.map fun a => (a, cs)

/-! ## Escapes -/

def hexDigit : Scan Nat := do require (Decimal.hexValue? (← next))

/-- Exactly `n` more digits of a number. -/
def hexDigits (f : Flags) : Nat → Nat → Scan Nat
  | 0, v => return v
  | n + 1, v => do
    let d ← hexDigit
    skip f
    hexDigits f n (16 * v + d)

/-- Digits up to the closing brace, no more than `fuel` of them. -/
def hexUntilBrace (f : Flags) : (fuel : Nat) → Nat → Scan Nat
  | 0, _ => failure
  | fuel + 1, v => do
    if ← accept "\x7d" then
      skip f
      return v
    else
      let d ← hexDigit
      skip f
      hexUntilBrace f fuel (16 * v + d)

/-- A character by its code, with `n` digits or any number of them in braces. -/
def hexLiteral (f : Flags) (n : Nat) : Scan Literal := do
  skip f
  let braced ← accept "\x7b"
  let v ← if braced then do
      skip f
      let d ← hexDigit
      skip f
      hexUntilBrace f ((← get).length + 1) d
    else
      hexDigits f n 0
  if v.isValidChar then
    return { char := Char.ofNat v, isByte := n = 2 && !braced }
  else
    failure

/-- Letters of the names of word edges. -/
def isLookLetter (c : Char) : Bool := ('a' ≤ c && c ≤ 'z') || ('A' ≤ c && c ≤ 'Z') || c = '-'

def lookName (f : Flags) : (fuel : Nat) → List Char → Scan (List Char)
  | 0, name => return name.reverse
  | fuel + 1, name => do
    match ← get with
    | c :: cs =>
      if isLookLetter c then
        set (significant f cs)
        lookName f fuel (c :: name)
      else
        return name.reverse
    | [] => return name.reverse

/-- The edge named in braces after `\b`. Braces that hold no name are left for a repetition. -/
def wordLook (f : Flags) : Scan WordLook := do
  match ← get with
  | '{' :: cs =>
    match significant f cs with
    | [] => failure
    | c :: rest =>
      if isLookLetter c then
        set (c :: rest)
        let name ← lookName f (rest.length + 1) []
        if ← accept "\x7d" then
          match String.ofList name with
          | "start" => return .start
          | "end" => return .stop
          | "start-half" => return .startHalf
          | "end-half" => return .stopHalf
          | _ => failure
        else
          failure
      else
        return .boundary
  | _ => return .boundary

/-- Characters that stand for themselves after a backslash. -/
def isEscapable (c : Char) : Bool :=
  c.toNat < 128 && !c.isAlphanum && c != '<' && c != '>'

/-- The atom after a backslash. -/
def escape (f : Flags) : Scan Atom := do
  let c ← next
  let literal := fun (c : Char) => (Atom.literal { char := c } : Atom)
  let word := fun (e : WordLook) => Atom.look (.word e f.unicode)
  match c with
  | 'x' => return .literal (← hexLiteral f 2)
  | 'u' => return .literal (← hexLiteral f 4)
  | 'U' => return .literal (← hexLiteral f 8)
  | 'd' => return .shorthand .digit false
  | 'D' => return .shorthand .digit true
  | 's' => return .shorthand .blank false
  | 'S' => return .shorthand .blank true
  | 'w' => return .shorthand .word false
  | 'W' => return .shorthand .word true
  | 'a' => return literal '\x07'
  | 'f' => return literal '\x0c'
  | 't' => return literal '\t'
  | 'n' => return literal '\n'
  | 'r' => return literal '\r'
  | 'v' => return literal '\x0b'
  | 'A' => return .look .textStart
  | 'z' => return .look .textEnd
  | 'b' => return word (← wordLook f)
  | 'B' => return word .notBoundary
  | '<' => return word .start
  | '>' => return word .stop
  | c => if isEscapable c then return literal c else failure

/-! ## Bracketed classes -/

/-- A part of a class, and the literal if it may be an end of a span. A letter written by its code
is no end where case is ignored: it stands for both its cases. -/
def classPart (f : Flags) : Scan (ClassItem × Option Literal) := do
  let c ← next
  if c = '\\' then
    match ← escape f with
    | .literal l => return (.span l l, if f.ignoreCase && l.char.isAlpha then none else some l)
    | .shorthand s negated => return (.shorthand s negated, none)
    | _ => failure
  else
    return (.span { char := c } { char := c }, some { char := c })

/-- A part of a class, or a span between two. -/
def classItem (f : Flags) : Scan ClassItem := do
  let (item, first) ← classPart f
  skip f
  match ← get with
  | [] => failure
  | '-' :: cs =>
    match (significant f cs).head? with
    | some ']' | some '-' => return item
    | _ =>
      set (significant f cs)
      let (_, last) ← classPart f
      let a ← require first
      let b ← require last
      if a.char ≤ b.char then return .span a b else failure
  | _ => return item

/-- A named class, such as `[:alpha:]` or `[:^alpha:]`. -/
def namedClass : Scan ClassItem := do
  if ← accept "[:" then
    let negated ← accept "^"
    let name ← takeWhile (· != ':')
    if ← accept ":]" then
      return .named (← require (namedClasses.lookup (String.ofList name))) negated
    else
      failure
  else
    failure

/-- The hyphens at the start of a class, which stand for themselves. -/
def leadingHyphens (f : Flags) : (fuel : Nat) → Scan (List ClassItem)
  | 0 => return []
  | fuel + 1 => do
    if ← accept "-" then
      skip f
      return .span { char := '-' } { char := '-' } :: (← leadingHyphens f fuel)
    else
      return []

/-- The parts of a class up to its closing bracket. -/
def classItems (f : Flags) : (fuel : Nat) → List ClassItem → Scan (List ClassItem)
  | 0, _ => failure
  | fuel + 1, items => do
    skip f
    match ← get with
    | [] => failure
    | ']' :: cs =>
      set cs
      return items.reverse
    | '[' :: _ => classItems f fuel ((← namedClass) :: items)
    | '&' :: '&' :: _ => failure
    | '-' :: '-' :: _ => failure
    | '~' :: '~' :: _ => failure
    | _ => classItems f fuel ((← classItem f) :: items)

/-- A class, after its opening bracket. -/
def bracket (f : Flags) : Scan Atom := do
  skip f
  let negated ← accept "^"
  if negated then skip f
  let fuel := (← get).length + 1
  let hyphens ← leadingHyphens f fuel
  let first ← if hyphens.isEmpty then do
      if ← accept "]" then
        skip f
        pure [.span { char := ']' } { char := ']' }]
      else
        pure []
    else
      pure hyphens
  return .bracket negated (← classItems f fuel first.reverse)

/-! ## Repetitions -/

/-- Whether a repetition with its sign before the rest is greedy. -/
def greed (f : Flags) : Scan Bool := do
  let lazily ← accept "?"
  return (!lazily) != f.swapGreed

/-- A number with blanks around it. -/
def count (f : Flags) : Scan Nat := do
  let _ ← takeWhile Text.isBlank
  let digits ← takeWhile Decimal.isDigit
  skip f
  let _ ← takeWhile Text.isBlank
  if digits.isEmpty then failure
  let n := Decimal.ofDigits digits
  if n < twoTo 32 then return n else failure

/-- A counted repetition, after its opening brace. -/
def counted (f : Flags) : Scan Token := do
  skip f
  let min ← count f
  let max ← if ← accept "," then do
      skip f
      if (← get).head? = some '}' then pure none else some <$> count f
    else
      pure (some min)
  if ← accept "\x7d" then
    skip f
    let greedy ← greed f
    if max.all (min ≤ ·) then return .repetition min max greedy else failure
  else
    failure

/-! ## Groups -/

/-- How a group starts. -/
inductive Start where
  | capture (name : Option (List Char))
  | plain (inner : Flags)
  | directive (f : Flags)

def isNameChar (first : Bool) (c : Char) : Bool :=
  c = '_' || if first then Text.isAlphabetic c
    else c = '.' || c = '[' || c = ']' || Text.isAlphanumeric c

/-- The name of a group, after its opening angle bracket. -/
def groupName : Scan (List Char) := do
  let name ← takeWhile (· != '>')
  if ← accept ">" then
    match name with
    | [] => failure
    | c :: cs => if isNameChar true c && cs.all (isNameChar false) then return name else failure
  else
    failure

/-- Changes of flags up to `)` or `:`. Each flag stands once, and behind a hyphen, which also
stands at most once and not last, flags are switched off. -/
def flagChanges (outer : Flags) : (fuel : Nat) → Flags → List Char → Scan Start
  | 0, _, _ => failure
  | fuel + 1, f, seen => do
    let c ← next
    if c = ')' then
      if seen.isEmpty || seen.head? = some '-' then failure
      return .directive f
    else if c = ':' then
      if seen.head? = some '-' then failure
      return .plain f
    else if seen.contains c then
      failure
    else
      let f ← if c = '-' then pure f else require (f.set? (!seen.contains '-') c)
      skip outer
      flagChanges outer fuel f (c :: seen)

/-- The start of a group, after its opening parenthesis. -/
def groupStart (f : Flags) : Scan Start := do
  skip f
  for look in ["?=", "?!", "?<=", "?<!"] do
    if ← accept look then failure
  let named ← if ← accept "?P<" then pure true else accept "?<"
  if named then
    return .capture (some (← groupName))
  else if ← accept "?" then
    flagChanges f ((← get).length + 1) f []
  else
    return .capture none

end Scan

/-! ## Patterns -/

/-- A pattern read so far. -/
structure Scanned where
  flags : Flags := {}
  /-- The flags of the open groups' surroundings, innermost first. -/
  outer : List Flags := []
  captures : Nat := 0
  names : List (List Char) := []
  /-- The tokens, last one first. -/
  tokens : List Token := []

namespace Scanned

def push (s : Scanned) (t : Token) : Scanned := { s with tokens := t :: s.tokens }

def atom (s : Scanned) (a : Atom) : Scanned := s.push (.atom s.flags a)

/-- Enters a group. -/
def enter (s : Scanned) (start : Scan.Start) : Option Scanned :=
  match start with
  | .directive f => some { s with flags := f, tokens := .directive :: s.tokens }
  | .plain f => some { s with flags := f, outer := s.flags :: s.outer, tokens := .opening none :: s.tokens }
  | .capture name =>
    let s' := { s with
      outer := s.flags :: s.outer, captures := s.captures + 1
      tokens := .opening (some s.captures) :: s.tokens }
    match name with
    | none => some s'
    | some name => if s.names.contains name then none else some { s' with names := name :: s.names }

/-- Leaves a group. -/
def leave (s : Scanned) : Option Scanned :=
  match s.outer with
  | [] => none
  | f :: outer => some { s with flags := f, outer, tokens := .closing :: s.tokens }

/-- The condition on a line's start or end, or on the text's when lines do not count. -/
def edge (s : Scanned) (line : Bool → Look) (text : Look) : Atom :=
  .look (if s.flags.multiLine then line s.flags.carriageReturns else text)

/-- Reads the token that starts with `c`. -/
def step (s : Scanned) (c : Char) : Scan Scanned := do
  let f := s.flags
  match c with
  | '(' => Scan.require (s.enter (← Scan.groupStart f))
  | ')' => Scan.require s.leave
  | '|' => return s.push .bar
  | '[' => return s.atom (← Scan.bracket f)
  | '?' => return s.push (.repetition 0 (some 1) (← Scan.greed f))
  | '*' => return s.push (.repetition 0 none (← Scan.greed f))
  | '+' => return s.push (.repetition 1 none (← Scan.greed f))
  | '{' => return s.push (← Scan.counted f)
  | '\\' => return s.atom (← Scan.escape f)
  | '.' => return s.atom .dot
  | '^' => return s.atom (s.edge .lineStart .textStart)
  | '$' => return s.atom (s.edge .lineEnd .textEnd)
  | c => return s.atom (.literal { char := c })

/-- Reads the rest of a pattern, no more than `fuel` tokens. -/
def rest : (fuel : Nat) → Scanned → Scan Scanned
  | 0, _ => failure
  | fuel + 1, s => do
    Scan.skip s.flags
    match ← get with
    | [] => return s
    | c :: cs =>
      set cs
      rest fuel (← s.step c)

end Scanned

/-- The tokens of a pattern. -/
def tokens? (pattern : List Char) : Option (List Token) :=
  match (Scanned.rest (pattern.length + 1) {}).run pattern with
  | some (s, _) => if s.outer.isEmpty then some s.tokens.reverse else none
  | none => none

end TestDesign.Pattern
