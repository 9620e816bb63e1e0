/-
# Chip8.Memory — four kilobytes, with the font at the bottom

Every address counts modulo 4096, so an access past the end goes on at the start.  The
font's sixteen glyphs fill 0x000–0x04F and a program starts at 0x200.

`read` is the view; `read_write` and `read_writeBlock` say what a write does to it.
-/
import Chip8.Fault
import Chip8.Table

namespace Chip8

set_option autoImplicit false

structure Memory where
  bytes : Vector UInt8 4096
  deriving DecidableEq, Repr

namespace Memory

/-! ## Bytes -/

/-- The place of an address. -/
def place (a : Nat) : Fin 4096 := ⟨a % 4096, Nat.mod_lt _ (by decide)⟩

def read (m : Memory) (a : Nat) : UInt8 := Table.get m.bytes (place a)

def write (m : Memory) (a : Nat) (b : UInt8) : Memory := ⟨Table.set m.bytes (place a) b⟩

/-- Two bytes, the high one first; the second address wraps on its own. -/
def word (m : Memory) (a : Nat) : UInt16 :=
  (m.read a).toUInt16 * 256 + (m.read (a + 1)).toUInt16

@[simp] theorem read_write (m : Memory) (a : Nat) (b : UInt8) (c : Nat) :
    (m.write a b).read c = if a % 4096 = c % 4096 then b else m.read c := by
  simp [read, write, place]

/-! ## Blocks -/

/-- The `n` bytes from `a` on. -/
def block (m : Memory) (a n : Nat) : List UInt8 :=
  (List.range n).map fun j => m.read (a + j)

/-- Writes a list of bytes from `a` on. -/
def writeBlock (m : Memory) (a : Nat) : List UInt8 → Memory
  | [] => m
  | b :: bs => (m.write a b).writeBlock (a + 1) bs

/-- How many places `c` lies after `a`, going around. -/
def after (a c : Nat) : Nat := (c + 4096 - a % 4096) % 4096

/-- A block that does not overtake itself is found where it was written, and nothing else
has changed. -/
theorem read_writeBlock (m : Memory) (a : Nat) {bs : List UInt8} (short : bs.length ≤ 4096)
    (c : Nat) : (m.writeBlock a bs).read c = bs[after a c]?.getD (m.read c) := by
  induction bs generalizing m a with
  | nil => rfl
  | cons b bs ih =>
    simp only [List.length_cons] at short
    rw [writeBlock, ih _ _ (by omega)]
    by_cases here : a % 4096 = c % 4096
    · have first : after a c = 0 := by unfold after; omega
      have last : bs.length ≤ after (a + 1) c := by unfold after; omega
      simp [first, List.getElem?_eq_none last, here]
    · have next : after a c = after (a + 1) c + 1 := by unfold after; omega
      simp [next, here]

theorem read_writeBlock_add (m : Memory) (a : Nat) {bs : List UInt8} (short : bs.length ≤ 4096)
    {j : Nat} (inside : j < bs.length) : (m.writeBlock a bs).read (a + j) = bs[j] := by
  have place : after a (a + j) = j := by unfold after; omega
  rw [read_writeBlock m a short, place, List.getElem?_eq_getElem inside, Option.getD_some]

/-! ## Font and program -/

def glyphSize : Nat := 5

/-- The glyphs of the digits `0` to `F`: five rows each, four cells wide. -/
def glyphs : List UInt8 :=
  [0xF0, 0x90, 0x90, 0x90, 0xF0,
   0x20, 0x60, 0x20, 0x20, 0x70,
   0xF0, 0x10, 0xF0, 0x80, 0xF0,
   0xF0, 0x10, 0xF0, 0x10, 0xF0,
   0x90, 0x90, 0xF0, 0x10, 0x10,
   0xF0, 0x80, 0xF0, 0x10, 0xF0,
   0xF0, 0x80, 0xF0, 0x90, 0xF0,
   0xF0, 0x10, 0x20, 0x40, 0x40,
   0xF0, 0x90, 0xF0, 0x90, 0xF0,
   0xF0, 0x90, 0xF0, 0x10, 0xF0,
   0xF0, 0x90, 0xF0, 0x90, 0x90,
   0xE0, 0x90, 0xE0, 0x90, 0xE0,
   0xF0, 0x80, 0x80, 0x80, 0xF0,
   0xE0, 0x90, 0x90, 0x90, 0xE0,
   0xF0, 0x80, 0xF0, 0x80, 0xF0,
   0xF0, 0x80, 0xF0, 0x80, 0x80]

/-- The font, and zeros above it. -/
def initial : Memory := Memory.writeBlock ⟨Vector.replicate 4096 0⟩ 0 glyphs

def programStart : Nat := 0x200

/-- Copies a program to where programs start, if it fits. -/
def load (rom : List UInt8) : Action Memory Unit := do
  if maxRomSize < rom.length then throw (.romTooLarge rom.length)
  modify (·.writeBlock programStart rom)

end Memory

end Chip8
