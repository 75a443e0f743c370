import TestDesign.Json.Reader
import TestDesign.Keyed

/-!
# TestDesign.Json.Shape

Readers of JSON values with an expected shape: scalars, lists, maps, choices and records.

A record is read from an object, in which the order of the members is free, unknown members are
skipped and a member may not stand twice, or from a list of its fields in order. A choice is the
name of a case, or an object with one member, whose key names the case and whose value holds its
content. Lists, maps, records and choices may be nested to a depth of 127.
-/

namespace TestDesign.Json

/-- Reads a value of a type. The number is the depth that is left for nesting. -/
abbrev Reader (α : Type) := Nat → List Char → Result α

/-- The depth at which a text starts. -/
def maxDepth : Nat := 128

/-- Reads what is inside an opening bracket, one level deeper. -/
def deeper {α : Type} (r : Reader α) : Reader α := fun depth cs =>
  match depth with
  | 0 => .error .malformed
  | 1 => .error .malformed
  | d + 1 => r d cs

namespace Reader

variable {α β σ : Type}

def map (f : α → β) (r : Reader α) : Reader β := fun depth cs =>
  (r depth cs).map fun p => (f p.1, p.2)

/-- Refuses values that the function does not take. -/
def check (f : α → Option β) (r : Reader α) : Reader β := fun depth cs =>
  match r depth cs with
  | .error e => .error e
  | .ok (x, rest) =>
    match f x with
    | some y => .ok (y, rest)
    | none => .error .shape

def text : Reader String := fun _ cs =>
  match skipSpace cs with
  | '"' :: cs => string cs
  | cs => .error (mismatch cs)

def bool : Reader Bool := fun _ cs =>
  match skipSpace cs with
  | 't' :: cs => (expect "rue".toList cs).map fun p => (true, p.2)
  | 'f' :: cs => (expect "alse".toList cs).map fun p => (false, p.2)
  | cs => .error (mismatch cs)

def number : Reader Number := fun _ cs =>
  let cs := skipSpace cs
  match cs with
  | c :: _ =>
    if c = '-' || Decimal.isDigit c then Json.number cs else .error (mismatch cs)
  | [] => .error .malformed

/-- A natural number of 64 bits. -/
def natural : Reader Nat :=
  number.check fun
    | .natural n => some n
    | _ => none

/-- An integer of 64 bits. -/
def integer : Reader Int :=
  number.check fun
    | .natural n => if n ≤ 9223372036854775807 then some n else none
    | .negative n => some n
    | .real _ => none

def real : Reader Float :=
  number.map fun
    | .natural n => Decimal.nearest false n 1
    | .negative n => Decimal.ofInt n
    | .real x => x

/-- Null, or a value. -/
def optional (r : Reader α) : Reader (Option α) := fun depth cs =>
  match skipSpace cs with
  | 'n' :: cs => (expect "ull".toList cs).map fun p => (none, p.2)
  | cs => (r.map some) depth cs

/-- Whether a list or an object goes on with another item, and the text from there. -/
def another (closing : Char) (isFirst : Bool) (cs : List Char) : Result Bool :=
  match skipSpace cs with
  | [] => .error .malformed
  | c :: rest =>
    if c = closing then .ok (false, c :: rest)
    else if isFirst then .ok (true, c :: rest)
    else if c = ',' then
      match skipSpace rest with
      | [] => .error .malformed
      | d :: rest => if d = closing then .error .malformed else .ok (true, d :: rest)
    else .error .malformed

/-- The closing bracket. -/
def close (closing : Char) (cs : List Char) : Result Unit := expect [closing] (skipSpace cs)

/-- The items of a list, up to the closing bracket. -/
def items (r : Reader α) (depth : Nat) : Nat → Bool → List Char → Result (List α)
  | 0, _, _ => .error .malformed
  | k + 1, isFirst, cs =>
    match another ']' isFirst cs with
    | .error e => .error e
    | .ok (false, rest) => .ok ([], rest)
    | .ok (true, rest) =>
      match r depth rest with
      | .error e => .error e
      | .ok (x, rest) =>
        match items r depth k false rest with
        | .error e => .error e
        | .ok (xs, rest) => .ok (x :: xs, rest)

def list (r : Reader α) : Reader (List α) := fun depth cs =>
  match skipSpace cs with
  | '[' :: cs =>
    deeper (fun depth cs =>
      match items r depth (cs.length + 1) true cs with
      | .error e => .error e
      | .ok (xs, rest) => (close ']' rest).map fun p => (xs, p.2)) depth cs
  | cs => .error (mismatch cs)

/-- The key of a member. -/
def key (cs : List Char) : Result String :=
  match cs with
  | '"' :: cs => string cs
  | _ => .error .malformed

/-- The colon after a key. -/
def colon (cs : List Char) : Result Unit := expect [':'] (skipSpace cs)

/-- The members of an object up to the closing brace; `member` reads what follows a key. -/
def members (member : String → σ → List Char → Result σ) :
    Nat → Bool → σ → List Char → Result σ
  | 0, _, _, _ => .error .malformed
  | k + 1, isFirst, s, cs =>
    match another '}' isFirst cs with
    | .error e => .error e
    | .ok (false, rest) => .ok (s, rest)
    | .ok (true, rest) =>
      match key rest with
      | .error e => .error e
      | .ok (name, rest) =>
        match member name s rest with
        | .error e => .error e
        | .ok (s, rest) => members member k false s rest

/-- A map; the last member with a key counts. -/
def keyed (r : Reader α) : Reader (Keyed α) := fun depth cs =>
  match skipSpace cs with
  | '{' :: cs =>
    deeper (fun depth cs =>
      let member := fun name (m : Keyed α) cs => show Except Fault _ from do
        let (_, cs) ← colon cs
        let (x, cs) ← r depth cs
        return (m.insert name x, cs)
      match members member (cs.length + 1) true .empty cs with
      | .error e => .error e
      | .ok (m, rest) => (close '}' rest).map fun p => (m, p.2)) depth cs
  | cs => .error (mismatch cs)

/-! ## Records -/

/-- A field of a record that is put together in a value of type `σ`. -/
structure Field (σ : Type) where
  name : String
  /-- Whether the record may lack the field. -/
  mayLack : Bool
  read : σ → Reader σ

/-- A field with a reader and what to do with its value. -/
def Field.of (name : String) (mayLack : Bool) (r : Reader α) (put : α → σ → σ) : Field σ :=
  ⟨name, mayLack, fun s => r.map fun x => put x s⟩

/-- The fields, from the items of a list. -/
def fieldItems (depth : Nat) : List (Field σ) → Bool → σ → List Char → Result σ
  | [], _, s, cs => .ok (s, cs)
  | f :: fs, isFirst, s, cs =>
    match another ']' isFirst cs with
    | .error e => .error e
    | .ok (true, rest) =>
      match f.read s depth rest with
      | .error e => .error e
      | .ok (s, rest) => fieldItems depth fs false s rest
    | .ok (false, rest) =>
      if f.mayLack then fieldItems depth fs isFirst s rest else .error .shape

/-- One member of an object: a field that has not been read yet, or something to skip. -/
def fieldMember (depth : Nat) (fields : List (Field σ)) (name : String) (s : List String × σ)
    (cs : List Char) : Except Fault ((List String × σ) × List Char) :=
  match fields.find? (·.name = name) with
  | some f =>
    if s.1.contains name then .error .shape
    else do
      let (_, cs) ← colon cs
      let (x, cs) ← f.read s.2 depth cs
      return ((name :: s.1, x), cs)
  | none => do
    let (_, cs) ← colon cs
    let cs ← skip cs
    return (s, cs)

/-- A record with the given fields, starting from their default values. -/
def record (fields : List (Field σ)) (start : σ) : Reader σ := fun depth cs =>
  match skipSpace cs with
  | '[' :: cs =>
    deeper (fun depth cs =>
      match fieldItems depth fields true start cs with
      | .error e => .error e
      | .ok (s, rest) => (close ']' rest).map fun p => (s, p.2)) depth cs
  | '{' :: cs =>
    deeper (fun depth cs =>
      match members (fieldMember depth fields) (cs.length + 1) true ([], start) cs with
      | .error e => .error e
      | .ok ((seen, s), rest) =>
        if fields.all fun f => f.mayLack || seen.contains f.name then
          (close '}' rest).map fun p => (s, p.2)
        else
          .error .shape) depth cs
  | cs => .error (mismatch cs)

/-! ## Choices -/

def null : Reader Unit := fun _ cs =>
  match skipSpace cs with
  | 'n' :: cs => expect "ull".toList cs
  | cs => .error (mismatch cs)

/-- A case of a choice: one without content, or one with a reader of its content. -/
inductive Branch (α : Type) where
  | plain (x : α)
  | holding (r : Reader α)

/-- A choice; `branch?` finds the case of a name. -/
def choice (branch? : String → Option (Branch α)) : Reader α := fun depth cs =>
  match skipSpace cs with
  | '"' :: cs =>
    match string cs with
    | .error e => .error e
    | .ok (name, rest) =>
      match branch? name with
      | some (.plain x) => .ok (x, rest)
      | some (.holding _) => .error .shape
      | none => .error .shape
  | '{' :: cs =>
    deeper (fun depth cs =>
      match text depth cs with
      | .error e => .error e
      | .ok (name, rest) =>
        match branch? name with
        | none => .error .shape
        | some b => show Except Fault _ from do
          let (_, rest) ← colon rest
          let (x, rest) ← match b with
            | .plain x => (null.map fun _ => x) depth rest
            | .holding r => r depth rest
          let (_, rest) ← close '}' rest
          return (x, rest)) depth cs
  | _ => .error .malformed

/-- A choice whose cases have no content. -/
def named (ofName? : String → Option α) : Reader α :=
  choice fun name => (ofName? name).map .plain

end Reader

/-- Reads a whole text. -/
def read {α : Type} (r : Reader α) (s : String) : Except Fault α :=
  match r maxDepth s.toList with
  | .error e => .error e
  | .ok (x, rest) => if (skipSpace rest).isEmpty then .ok x else .error .malformed

end TestDesign.Json
