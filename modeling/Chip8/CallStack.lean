/-
# Chip8.CallStack — return addresses, at most sixteen

Sixteen slots and a depth.  The slots below the depth are live, and `live` lists them
oldest first; what is left in the others can never be read again.
-/
import Chip8.Fault

namespace Chip8

set_option autoImplicit false

structure CallStack where
  slots : Vector UInt16 16
  depth : Nat
  deriving DecidableEq, Repr

namespace CallStack

def empty : CallStack := ⟨Vector.replicate 16 0, 0⟩

/-- The return addresses, oldest first. -/
def live (s : CallStack) : List UInt16 := s.slots.toList.take s.depth

/-- Remembers where a call returns to. -/
def push (next : UInt16) : Action CallStack Unit := do
  let s ← get
  if 16 ≤ s.depth then throw (.stackOverflow next)
  set { s with slots := ← withEntry s.slots s.depth next }
  modify fun s => { s with depth := s.depth + 1 }

/-- Takes the latest return address off; `next` is the address after the return. -/
def pop (next : UInt16) : Action CallStack UInt16 := do
  if (← get).depth = 0 then throw (.stackUnderflow next)
  modify fun s => { s with depth := s.depth - 1 }
  let s ← get
  entry s.slots s.depth

@[simp] theorem live_empty : empty.live = [] := by simp [empty, live]

end CallStack

end Chip8
