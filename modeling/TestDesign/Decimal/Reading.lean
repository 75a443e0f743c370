import TestDesign.Decimal.Double

/-!
# TestDesign.Decimal.Reading

Numbers read from text. An integer is an optional sign and digits. A real is an optional sign and
either decimal digits with at most one point among them and an optional exponent, or one of the
words `inf`, `infinity` and `nan` in any case; its value is the double nearest to the decimal.
-/

namespace TestDesign.Decimal

def isDigit (c : Char) : Bool := '0' ≤ c && c ≤ '9'

def digitValue (c : Char) : Nat := c.toNat - '0'.toNat

/-- The number that a list of digits writes, most significant first. -/
def ofDigits (cs : List Char) : Nat := cs.foldl (fun n c => 10 * n + digitValue c) 0

/-- The sign in front of a text, and the text after it. -/
def splitSign : List Char → Bool × List Char
  | '-' :: cs => (true, cs)
  | '+' :: cs => (false, cs)
  | cs => (false, cs)

/-- A non-empty list of digits, as a number. -/
def natural? (cs : List Char) : Option Nat :=
  if cs.isEmpty || !cs.all isDigit then none else some (ofDigits cs)

def integer? (s : String) : Option Int :=
  let (negative, cs) := splitSign s.toList
  (natural? cs).map fun n => if negative then -n else n

/-- The integer, if it lies in the bounds. -/
def integerWithin? (lo hi : Int) (s : String) : Option Int :=
  match integer? s with
  | some n => if lo ≤ n ∧ n ≤ hi then some n else none
  | none => none

/-- The exponent after the digits: none, or a mark, an optional sign and digits. -/
def exponent? : List Char → Option Int
  | [] => some 0
  | c :: cs =>
    if c = 'e' ∨ c = 'E' then
      let (negative, ds) := splitSign cs
      (natural? ds).map fun n => if negative then -n else n
    else
      none

/-- Coefficient and decimal exponent of an unsigned decimal. -/
def decimal? (cs : List Char) : Option (Nat × Int) :=
  let whole := cs.takeWhile isDigit
  let rest := cs.dropWhile isDigit
  let (places, rest) := match rest with
    | '.' :: more => (more.takeWhile isDigit, more.dropWhile isDigit)
    | _ => ([], rest)
  if whole.isEmpty && places.isEmpty then none
  else
    match exponent? rest with
    | some e => some (ofDigits (whole ++ places), e - places.length)
    | none => none

/-- The double nearest to plus or minus `n * 10 ^ e`. Decimals far outside the range of doubles are
not computed: above 10^310 all round to infinity, below 10^-330 to zero. -/
def scaled (negative : Bool) (n : Nat) (e : Int) : Float :=
  let top := (Nat.toDigits 10 n).length + e
  if n = 0 || top < -330 then nearest negative 0 1
  else if 310 < top then nearest negative (tenTo 310) 1
  else nearest negative (n * tenTo e.toNat) (tenTo (-e).toNat)

def lowerAscii (cs : List Char) : List Char := cs.map Char.toLower

/-- The double that a text writes. -/
def real? (s : String) : Option Float :=
  let (negative, cs) := splitSign s.toList
  match decimal? cs with
  | some (n, e) => some (scaled negative n e)
  | none =>
    let word := lowerAscii cs
    if word = "inf".toList || word = "infinity".toList then
      some (nearest negative (tenTo 310) 1)
    else if word = "nan".toList then
      some (Float.ofBits (if negative then 0xfff8000000000000 else 0x7ff8000000000000))
    else
      none

end TestDesign.Decimal
