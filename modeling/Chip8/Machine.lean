/-
# Chip8.Machine — the whole state, and how it starts

Sixteen byte registers, the index register, the program counter, the call stack, two
timers, memory, screen, keypad, the random stream and the configuration.  `start` is the
state a machine has when it is switched on; `reset` goes back to it, but keeps the
configuration and goes on in the random stream.
-/
import Chip8.CallStack
import Chip8.Config
import Chip8.Keypad
import Chip8.Memory
import Chip8.Random.Stream
import Chip8.Screen
import Chip8.Table

namespace Chip8

set_option autoImplicit false

structure Machine where
  v : Vector UInt8 16
  index : UInt16
  pc : UInt16
  stack : CallStack
  delay : UInt8
  sound : UInt8
  memory : Memory
  screen : Screen
  keypad : Keypad
  random : Random.Stream
  config : Config
  deriving DecidableEq, Repr

namespace Machine

/-- A machine that nothing has happened to, with the given stream and configuration. -/
def fresh (random : Random.Stream) (config : Config) : Machine where
  v := Vector.replicate 16 0
  index := 0
  pc := UInt16.ofNat Memory.programStart
  stack := .empty
  delay := 0
  sound := 0
  memory := .initial
  screen := .blank
  keypad := .released
  random := random
  config := config

/-- A machine switched on: its stream starts at the configured seed, or at `drawn` if there
is none. -/
def start (config : Config) (drawn : UInt64) : Machine :=
  fresh (.start (config.seed.getD drawn)) config

def reset (m : Machine) : Machine := fresh m.random m.config

/-! ## Registers -/

def reg (x : UInt8) : Action Machine UInt8 := do
  let m ← get
  entry m.v x.toNat

def setReg (x b : UInt8) : Action Machine Unit := do
  let m ← get
  set { m with v := ← withEntry m.v x.toNat b }

/-- The last register, which some instructions use to tell whether something happened. -/
def flagReg : Fin 16 := Fin.last 15

def setFlag (m : Machine) (flag : Bool) : Machine :=
  { m with v := Table.set m.v flagReg flag.toUInt8 }

/-- The flag is set first, so when `x` is the register it is set in, the result stands. -/
def setFlagged (x b : UInt8) (flag : Bool) : Action Machine Unit := do
  modify (·.setFlag flag)
  setReg x b

/-! ## Call stack -/

/-- Work on the call stack, the rest of the machine left alone. -/
def onStack {α : Type} (a : Action CallStack α) : Action Machine α := fun m =>
  match a.run m.stack with
  | .ok x stack => .ok x { m with stack }
  | .error fault stack => .error fault { m with stack }

/-! ## Timers and sound -/

/-- Both timers one down, not below zero. -/
def countDown (m : Machine) : Machine :=
  { m with
    delay := if m.delay = 0 then 0 else m.delay - 1
    sound := if m.sound = 0 then 0 else m.sound - 1 }

def isSounding (m : Machine) : Bool := 0 < m.sound

/-! ## Program counter -/

/-- Passes over one instruction. -/
def skip (m : Machine) : Machine := { m with pc := (m.pc + 2) % 4096 }

def skipIf (m : Machine) (c : Bool) : Machine := if c then m.skip else m

end Machine

end Chip8
