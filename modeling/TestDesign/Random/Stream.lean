import TestDesign.Random.Digest

/-!
# TestDesign.Random.Stream

The random word stream of a seed: the ChaCha keystream with eight rounds, a 64-bit block counter
that starts at zero and stream number zero. A state is four rows of four words. A double round
works on whole rows: the column half as the rows stand, the diagonal half on rows turned by one,
two and three places.

A seed is a text. The first eight bytes of its digest, least significant first, expand to the
key, so equal seeds give equal streams and the texts alone decide which consumers share one.
-/

namespace TestDesign.Random

/-- A row of the keystream state. -/
structure Row where
  a : UInt32
  b : UInt32
  c : UInt32
  d : UInt32
deriving DecidableEq, Inhabited

namespace Row

@[inline] def zip (f : UInt32 → UInt32 → UInt32) (x y : Row) : Row :=
  ⟨f x.a y.a, f x.b y.b, f x.c y.c, f x.d y.d⟩

def add (x y : Row) : Row := zip (· + ·) x y

def xor (x y : Row) : Row := zip (· ^^^ ·) x y

/-- Turns the bits of every word left. -/
def rotl (n : UInt32) (x : Row) : Row :=
  let r := fun w : UInt32 => (w <<< n) ||| (w >>> (32 - n))
  ⟨r x.a, r x.b, r x.c, r x.d⟩

/-- Turns the row left by one place. -/
def turn (x : Row) : Row := ⟨x.b, x.c, x.d, x.a⟩

def toList (x : Row) : List UInt32 := [x.a, x.b, x.c, x.d]

end Row

/-- The state of the keystream function: constants, key (two rows), counter. -/
structure Grid where
  r0 : Row
  r1 : Row
  r2 : Row
  r3 : Row
deriving DecidableEq

namespace Grid

/-- Four quarter rounds, one per column. -/
def columns (g : Grid) : Grid :=
  let r0 := g.r0.add g.r1
  let r3 := (g.r3.xor r0).rotl 16
  let r2 := g.r2.add r3
  let r1 := (g.r1.xor r2).rotl 12
  let r0 := r0.add r1
  let r3 := (r3.xor r0).rotl 8
  let r2 := r2.add r3
  let r1 := (r1.xor r2).rotl 7
  ⟨r0, r1, r2, r3⟩

/-- Four quarter rounds, one per diagonal. -/
def diagonals (g : Grid) : Grid :=
  let h := columns ⟨g.r0, g.r1.turn, g.r2.turn.turn, g.r3.turn.turn.turn⟩
  ⟨h.r0, h.r1.turn.turn.turn, h.r2.turn.turn, h.r3.turn⟩

def doubleRounds : Nat → Grid → Grid
  | 0, g => g
  | n + 1, g => doubleRounds n g.columns.diagonals

def add (g h : Grid) : Grid := ⟨g.r0.add h.r0, g.r1.add h.r1, g.r2.add h.r2, g.r3.add h.r3⟩

def toList (g : Grid) : List UInt32 :=
  g.r0.toList ++ g.r1.toList ++ g.r2.toList ++ g.r3.toList

end Grid

/-- The key of a stream. -/
structure Key where
  low : Row
  high : Row
deriving DecidableEq, Inhabited

/-- Sixteen words of the keystream. -/
def Key.block (k : Key) (counter : UInt64) : Grid :=
  let g : Grid :=
    { r0 := ⟨0x61707865, 0x3320646e, 0x79622d32, 0x6b206574⟩
      r1 := k.low
      r2 := k.high
      r3 := ⟨counter.toUInt32, (counter >>> 32).toUInt32, 0, 0⟩ }
  (g.doubleRounds 4).add g

/-- A position in the keystream of a key: the words left of the current block, and the number of
the block that follows it. -/
structure Stream where
  key : Key
  pending : List UInt32
  counter : UInt64
deriving DecidableEq, Inhabited

namespace Stream

def ofKey (k : Key) : Stream := ⟨k, [], 0⟩

/-- The next word, and the stream after it. -/
def next (s : Stream) : UInt32 × Stream :=
  match s.pending with
  | w :: rest => (w, { s with pending := rest })
  | [] =>
    let g := s.key.block s.counter
    (g.r0.a, { s with pending := g.toList.tail, counter := s.counter + 1 })

end Stream

namespace Key

/-- One step of the generator that expands a number to a key. -/
def expandStep (state : UInt64) : UInt64 := state * 6364136223846793005 + 11634580027462260723

/-- The output word of an expansion state. -/
def expandWord (state : UInt64) : UInt32 :=
  let x := (((state >>> 18) ^^^ state) >>> 27).toUInt32
  let r := (state >>> 59).toUInt32
  (x >>> r) ||| (x <<< (32 - r))

/-- Four expansion words, and the state after them. -/
def expandRow (state : UInt64) : Row × UInt64 :=
  let s1 := expandStep state
  let s2 := expandStep s1
  let s3 := expandStep s2
  let s4 := expandStep s3
  (⟨expandWord s1, expandWord s2, expandWord s3, expandWord s4⟩, s4)

/-- The key of a number. -/
def ofNumber (n : UInt64) : Key :=
  let (low, s) := expandRow n
  ⟨low, (expandRow s).1⟩

end Key

/-- The bytes of a word in the other order. -/
def reverseBytes (w : UInt64) : UInt64 :=
  ((List.range 8).map fun i => (w >>> (8 * i).toUInt64) &&& 0xff).foldl
    (fun acc b => (acc <<< 8) ||| b) 0

/-- The text that fixes a stream. Consumers of one run take seeds derived from the run's seed by a
colon and a number or a label. -/
structure Seed where
  text : String
deriving DecidableEq, Inhabited

namespace Seed

/-- The first eight bytes of the digest, least significant byte first. -/
def number (s : Seed) : UInt64 :=
  reverseBytes (digest s.text.toUTF8.toList).a

/-- The stream of the seed, from its first word. -/
def stream (s : Seed) : Stream := .ofKey (.ofNumber s.number)

/-- The seed of a named consumer. -/
def child (s : Seed) (label : String) : Seed := ⟨s.text ++ ":" ++ label⟩

/-- The seed of the consumer with the given number. -/
def nth (s : Seed) (n : Nat) : Seed := s.child (toString n)

end Seed

end TestDesign.Random
