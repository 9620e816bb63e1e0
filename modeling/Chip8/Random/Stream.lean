/-
# Chip8.Random.Stream — the words a seed gives, and how many of them are used up

A seed fixes an infinite sequence of 32-bit words: it is expanded to a key, and the key's
blocks follow one another.  A stream is a seed and a position in its sequence, so two
streams are equal exactly when all that is still to come from them is computed alike.

* `Stream.word` — the sequence; `Stream.next` — the word at the position, and the stream
  one further on.
-/
import Chip8.Random.Block

namespace Chip8.Random

set_option autoImplicit false

/-! ## From seed to key -/

/-- One step of the 64-bit congruential generator that expands a seed. -/
def congruence (s : UInt64) : UInt64 := s * 6364136223846793005 + 11634580027462260723

/-- The word a generator state shows: its middle bits, rotated right by its top five. -/
def shown (s : UInt64) : UInt32 :=
  let w := (((s >>> 18) ^^^ s) >>> 27).toUInt32
  let r := (s >>> 59).toUInt32
  (w >>> r) ||| (w <<< (32 - r))

/-- The first `n` words shown after the state `s`. -/
def expand : Nat → UInt64 → List UInt32
  | 0, _ => []
  | n + 1, s => shown (congruence s) :: expand n (congruence s)

def keyOfSeed (seed : UInt64) : Key :=
  let words := expand 8 seed
  Vector.ofFn fun i => words.getD i 0

/-! ## The sequence -/

structure Stream where
  seed : UInt64
  position : Nat
  deriving DecidableEq, Repr

namespace Stream

/-- The `k`-th word of a seed's sequence, counted from 0; a block holds sixteen. -/
def word (seed : UInt64) (k : Nat) : UInt32 :=
  let words := block (keyOfSeed seed) (UInt64.ofNat (k / 16))
  words[k % 16]

def start (seed : UInt64) : Stream := ⟨seed, 0⟩

def next (s : Stream) : UInt32 × Stream :=
  (word s.seed s.position, { s with position := s.position + 1 })

end Stream

end Chip8.Random
