/-
# Chip8.Config — the choices a machine is built with
-/
import Chip8.Keymap

namespace Chip8

set_option autoImplicit false

/-- What the wait for a key does while no key is held. -/
inductive KeyWait
  /-- Look once and go on; the register keeps its value. -/
  | poll
  /-- Run the same instruction again on the next step. -/
  | block
  deriving DecidableEq, Repr

structure Config where
  keymap : Keymap := .standard
  keyWait : KeyWait := .poll
  /-- Where the random stream starts; without one it is drawn when the machine is built. -/
  seed : Option UInt64 := none
  /-- Whether a register transfer up to `Vx` includes `Vx` itself. -/
  inclusive : Bool := false
  deriving DecidableEq, Repr

namespace Config

/-- How many registers a transfer up to `Vx` moves. -/
def transferCount (c : Config) (x : UInt8) : Nat :=
  if c.inclusive then x.toNat + 1 else x.toNat

end Config

end Chip8
