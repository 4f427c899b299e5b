/-!
# The keystream behind seeded generation

A seed is expanded to a key of eight words, and the key and a block counter determine sixteen
words of output each. The state is a matrix of four rows; a round works on its columns, and
rotating the rows turns diagonals into columns. Six double rounds are applied.
-/

namespace ClassMill.Random

/-- Four words that are combined lane by lane. -/
structure Row where
  w : UInt32
  x : UInt32
  y : UInt32
  z : UInt32
  deriving DecidableEq

namespace Row

/-- Adds lane by lane, modulo `2 ^ 32`. -/
def add (r s : Row) : Row := ⟨r.w + s.w, r.x + s.x, r.y + s.y, r.z + s.z⟩

/-- Combines lane by lane with exclusive or. -/
def xor (r s : Row) : Row := ⟨r.w ^^^ s.w, r.x ^^^ s.x, r.y ^^^ s.y, r.z ^^^ s.z⟩

/-- Rotates a word to the left by `n` bits, `0 < n < 32`. -/
def rotateWord (n v : UInt32) : UInt32 := v <<< n ||| v >>> (32 - n)

/-- Rotates every lane to the left by `n` bits. -/
def rotate (n : UInt32) (r : Row) : Row :=
  ⟨rotateWord n r.w, rotateWord n r.x, rotateWord n r.y, rotateWord n r.z⟩

/-- Moves every lane one place towards the front. -/
def shift (r : Row) : Row := ⟨r.x, r.y, r.z, r.w⟩

/-- The four words in order. -/
def toList (r : Row) : List UInt32 := [r.w, r.x, r.y, r.z]

end Row

/-- Four rows of four words, the state of one block. -/
structure Matrix where
  a : Row
  b : Row
  c : Row
  d : Row
  deriving DecidableEq

namespace Matrix

/-- One quarter round on all four columns at once. -/
def columnRound (m : Matrix) : Matrix :=
  let a := m.a.add m.b
  let d := (m.d.xor a).rotate 16
  let c := m.c.add d
  let b := (m.b.xor c).rotate 12
  let a := a.add b
  let d := (d.xor a).rotate 8
  let c := c.add d
  let b := (b.xor c).rotate 7
  ⟨a, b, c, d⟩

/-- Turns each diagonal into a column. -/
def skew (m : Matrix) : Matrix := ⟨m.a, m.b.shift, m.c.shift.shift, m.d.shift.shift.shift⟩

/-- Turns each column back into a diagonal. -/
def unskew (m : Matrix) : Matrix := ⟨m.a, m.b.shift.shift.shift, m.c.shift.shift, m.d.shift⟩

/-- A round on the columns followed by a round on the diagonals. -/
def doubleRound (m : Matrix) : Matrix := m.columnRound.skew.columnRound.unskew

/-- Adds two matrices word by word. -/
def add (m n : Matrix) : Matrix := ⟨m.a.add n.a, m.b.add n.b, m.c.add n.c, m.d.add n.d⟩

/-- The sixteen words in order. -/
def toList (m : Matrix) : List UInt32 := m.a.toList ++ m.b.toList ++ m.c.toList ++ m.d.toList

end Matrix

/-- A key of eight words. -/
structure Key where
  low : Row
  high : Row
  deriving DecidableEq

namespace Key

/-- Advances the seed by one step of a linear congruence. -/
def nextState (state : UInt64) : UInt64 := state * 6364136223846793005 + 11634580027462260723

/-- The key word that belongs to a state of the expansion. -/
def wordOf (state : UInt64) : UInt32 :=
  let folded := (((state >>> 18) ^^^ state) >>> 27).toUInt32
  let turn := (state >>> 59).toUInt32
  folded >>> turn ||| folded <<< (32 - turn)

/-- The first `n` key words after a state. -/
def wordsFrom (state : UInt64) : Nat → List UInt32
  | 0 => []
  | n + 1 => wordOf (nextState state) :: wordsFrom (nextState state) n

/-- Expands a seed to a key. -/
def ofSeed (seed : UInt64) : Key :=
  match wordsFrom seed 8 with
  | [a, b, c, d, e, f, g, h] => ⟨⟨a, b, c, d⟩, ⟨e, f, g, h⟩⟩
  | _ => ⟨⟨0, 0, 0, 0⟩, ⟨0, 0, 0, 0⟩⟩

/-- The state before the rounds: the constant row, the key, and the counter with its low
word first. -/
def initial (key : Key) (counter : UInt64) : Matrix where
  a := ⟨0x61707865, 0x3320646e, 0x79622d32, 0x6b206574⟩
  b := key.low
  c := key.high
  d := ⟨counter.toUInt32, (counter >>> 32).toUInt32, 0, 0⟩

/-- The sixteen output words of one block. -/
def block (key : Key) (counter : UInt64) : List UInt32 :=
  let start := key.initial counter
  (start.add (Nat.repeat Matrix.doubleRound 6 start)).toList

end Key

end ClassMill.Random
