import TestDesign.Decimal.Hexadecimal

/-!
# TestDesign.Json.Reader

The lexical level of JSON: blanks, words, strings and numbers, and values of no interest, which
are skipped.

A fault is one of two kinds. `malformed` says that the text is no JSON, `shape` that it is, as far
as it was read, but does not describe what is being read. Reading goes from left to right and stops
at the first fault.
-/

namespace TestDesign.Json

open Decimal

/-- Why a text is refused. -/
inductive Fault where
  | malformed
  | shape
deriving DecidableEq

/-- What was read, and the rest of the text. -/
abbrev Result (α : Type) := Except Fault (α × List Char)

def isSpace (c : Char) : Bool := c = ' ' || c = '\n' || c = '\t' || c = '\r'

def skipSpace (cs : List Char) : List Char := cs.dropWhile isSpace

/-- Reads the given characters. -/
def expect (word : List Char) (cs : List Char) : Result Unit :=
  if word.isPrefixOf cs then .ok ((), cs.drop word.length) else .error .malformed

/-! ## Strings -/

/-- A part of a string: a character, or a code unit from an escape. -/
inductive Piece where
  | char (c : Char)
  | unit (n : Nat)

/-- The character of a one-letter escape. -/
def escaped? : Char → Option Char
  | '"' => some '"'
  | '\\' => some '\\'
  | '/' => some '/'
  | 'b' => some (Char.ofNat 8)
  | 'f' => some (Char.ofNat 12)
  | 'n' => some '\n'
  | 'r' => some '\r'
  | 't' => some '\t'
  | _ => none

/-- The pieces of a string up to its closing quote. -/
def pieces : List Char → Result (List Piece)
  | '"' :: cs => .ok ([], cs)
  | '\\' :: 'u' :: a :: b :: c :: d :: cs =>
    match hex? [a, b, c, d], pieces cs with
    | none, _ => .error .malformed
    | _, .error e => .error e
    | some n, .ok (ps, rest) => .ok (.unit n :: ps, rest)
  | '\\' :: c :: cs =>
    match escaped? c, pieces cs with
    | none, _ => .error .malformed
    | _, .error e => .error e
    | some c, .ok (ps, rest) => .ok (.char c :: ps, rest)
  | c :: cs =>
    if c.toNat < 0x20 || c = '\\' then .error .malformed
    else
      match pieces cs with
      | .error e => .error e
      | .ok (ps, rest) => .ok (.char c :: ps, rest)
  | [] => .error .malformed

def isHighUnit (n : Nat) : Bool := 0xd800 ≤ n && n ≤ 0xdbff

def isLowUnit (n : Nat) : Bool := 0xdc00 ≤ n && n ≤ 0xdfff

/-- The characters of the pieces. Two units may form one character; half of such a pair is
refused. -/
def join : List Piece → Except Fault (List Char)
  | [] => .ok []
  | .char c :: ps => (join ps).map (c :: ·)
  | .unit n :: ps =>
    if isLowUnit n then .error .malformed
    else if isHighUnit n then
      match ps with
      | .unit m :: ps =>
        if isLowUnit m then
          (join ps).map (Char.ofNat (0x10000 + (n - 0xd800) * 0x400 + (m - 0xdc00)) :: ·)
        else
          .error .malformed
      | _ => .error .malformed
    else
      (join ps).map (Char.ofNat n :: ·)

/-- A string after its opening quote. -/
def string (cs : List Char) : Result String :=
  match pieces cs with
  | .error e => .error e
  | .ok (ps, rest) =>
    match join ps with
    | .error e => .error e
    | .ok cs => .ok (String.ofList cs, rest)

/-! ## Numbers -/

/-- A number as it is written. -/
structure NumberText where
  negative : Bool
  whole : List Char
  places : List Char
  /-- The sign and the digits of the exponent. -/
  exponent : Option (Bool × List Char)

/-- The digits in front of a text, at least one. -/
def someDigits (cs : List Char) : Result (List Char) :=
  let ds := cs.takeWhile isDigit
  if ds.isEmpty then .error .malformed else .ok (ds, cs.dropWhile isDigit)

/-- Cuts a number off the front of a text. -/
def numberText (cs : List Char) : Except Fault (NumberText × List Char) := do
  let (negative, cs) := match cs with
    | '-' :: cs => (true, cs)
    | _ => (false, cs)
  let (whole, cs) ← someDigits cs
  if whole.head? = some '0' && 1 < whole.length then .error .malformed
  let (places, cs) ← match cs with
    | '.' :: cs => someDigits cs
    | _ => .ok ([], cs)
  let (exponent, cs) ← match cs with
    | c :: rest =>
      if c = 'e' || c = 'E' then do
        let (sign, rest) := splitSign rest
        let (ds, rest) ← someDigits rest
        .ok (some (sign, ds), rest)
      else .ok (none, cs)
    | [] => .ok (none, cs)
  return (⟨negative, whole, places, exponent⟩, cs)

/-- The value of a number: an integer if it is written as one and fits, else a double. -/
inductive Number where
  | natural (n : Nat)
  | negative (n : Int)
  | real (x : Float)

/-- Significands are collected up to this number; further digits do not count. -/
def maxSignificand : Nat := 18446744073709551615

/-- Appends digits to a significand as long as it fits, and counts them. -/
def collect (significand : Nat) : List Char → Nat × Nat
  | [] => (significand, 0)
  | d :: ds =>
    let next := 10 * significand + digitValue d
    if maxSignificand < next then (significand, 0)
    else
      let (s, n) := collect next ds
      (s, n + 1)

/-- Divides by a power of ten, in steps that doubles can hold. -/
def scaleDown : Nat → Float → Nat → Float
  | 0, x, _ => x
  | k + 1, x, e =>
    if e ≤ 308 then x / nearest false (tenTo e) 1
    else if x == 0.0 then x
    else scaleDown k (x / nearest false (tenTo 308) 1) (e - 308)

/-- The double of a significand and a decimal exponent, by one multiplication or division where
the power of ten is a double; too large a number is refused. -/
def realOfParts (significand : Nat) (exponent : Int) : Except Fault Float :=
  let x := nearest false significand 1
  if exponent < 0 then .ok (scaleDown 8 x exponent.natAbs)
  else if significand = 0 then .ok x
  else if 308 < exponent then .error .malformed
  else
    let y := x * nearest false (tenTo exponent.toNat) 1
    if isFinite y then .ok y else .error .malformed

/-- The exponent as an integer; none when it does not fit 32 bits. -/
def exponentValue (e : Option (Bool × List Char)) : Option Int :=
  match e with
  | none => some 0
  | some (negative, ds) =>
    let n := ofDigits ds
    if 2147483647 < n then none else some (if negative then -n else n)

def NumberText.value (t : NumberText) : Except Fault Number := do
  let (s, n) := collect 0 t.whole
  let dropped := t.whole.length - n
  if t.places.isEmpty && t.exponent.isNone && dropped = 0 then
    if !t.negative then return .natural s
    else if 0 < s ∧ s ≤ 9223372036854775808 then return .negative (-s)
    else return .real (nearest true s 1)
  else
    let (s, n) := collect s t.places
    match exponentValue t.exponent with
    | some e =>
      let x ← realOfParts s (e + dropped - n)
      return .real (if t.negative then -x else x)
    | none =>
      if s ≠ 0 ∧ t.exponent.any (!·.1) then .error .malformed
      else return .real (nearest t.negative 0 1)

/-- A number. -/
def number (cs : List Char) : Except Fault (Number × List Char) := do
  let (t, rest) ← numberText cs
  let n ← t.value
  return (n, rest)

/-! ## Skipping -/

mutual

/-- Skips a value. The first argument bounds the number of steps; the length of the text is
enough. -/
def skipValue : Nat → List Char → Except Fault (List Char)
  | 0, _ => .error .malformed
  | k + 1, cs =>
    match skipSpace cs with
    | 'n' :: cs => (expect "ull".toList cs).map (·.2)
    | 't' :: cs => (expect "rue".toList cs).map (·.2)
    | 'f' :: cs => (expect "alse".toList cs).map (·.2)
    | '"' :: cs => (pieces cs).map (·.2)
    | '[' :: cs =>
      match skipSpace cs with
      | ']' :: rest => .ok rest
      | rest => skipItems k rest
    | '{' :: cs =>
      match skipSpace cs with
      | '}' :: rest => .ok rest
      | rest => skipMembers k rest
    | cs => (numberText cs).map (·.2)

/-- Skips the items of a list, at least one. -/
def skipItems : Nat → List Char → Except Fault (List Char)
  | 0, _ => .error .malformed
  | k + 1, cs =>
    match skipValue k cs with
    | .error e => .error e
    | .ok rest =>
      match skipSpace rest with
      | ',' :: rest => skipItems k rest
      | ']' :: rest => .ok rest
      | _ => .error .malformed

/-- Skips the members of an object, at least one. -/
def skipMembers : Nat → List Char → Except Fault (List Char)
  | 0, _ => .error .malformed
  | k + 1, cs =>
    match skipSpace cs with
    | '"' :: cs =>
      match pieces cs with
      | .error e => .error e
      | .ok (_, rest) =>
        match skipSpace rest with
        | ':' :: rest =>
          match skipValue k rest with
          | .error e => .error e
          | .ok rest =>
            match skipSpace rest with
            | ',' :: rest => skipMembers k rest
            | '}' :: rest => .ok rest
            | _ => .error .malformed
        | _ => .error .malformed
    | _ => .error .malformed

end

/-- Skips a value. -/
def skip (cs : List Char) : Except Fault (List Char) := skipValue (3 * cs.length + 3) cs

/-- The fault of a value that is not of the wanted kind. A text, a number or a word is read first,
so that a fault in it counts. -/
def mismatch (cs : List Char) : Fault :=
  let after : {α : Type} → Except Fault α → Fault := fun r =>
    match r with
    | .ok _ => .shape
    | .error e => e
  match cs with
  | 'n' :: cs => after (expect "ull".toList cs)
  | 't' :: cs => after (expect "rue".toList cs)
  | 'f' :: cs => after (expect "alse".toList cs)
  | '"' :: cs => after (string cs)
  | '[' :: _ => .shape
  | '{' :: _ => .shape
  | c :: _ => if c = '-' || isDigit c then after (number cs) else .malformed
  | [] => .malformed

end TestDesign.Json
