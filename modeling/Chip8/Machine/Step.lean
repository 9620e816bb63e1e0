/-
# Chip8.Machine.Step — fetch, move on, execute; and many of these in a row

A step reads the word at the program counter, moves the counter past it and executes the
instruction.  If that fails, the counter is put back, masked to an address; whatever else the
instruction did before it failed would stay.  A run ends at the first step that fails.

* `Machine.step` — one instruction.
* `Run.steps` — up to `n` of them; `steps_add` splits a run anywhere.
-/
import Chip8.Instruction.Decode
import Chip8.Machine.Execute

namespace Chip8

set_option autoImplicit false

/-- What a call on a machine leaves behind: the machine, the records in the order they were
reported, and what the call returned. -/
structure Reply (α : Type) where
  machine : Machine
  log : List Log.Record
  result : Except Fault α

namespace Machine

/-- The address of the instruction that is next. -/
def here (m : Machine) : UInt16 := m.pc % 4096

/-- The word at that address. -/
def fetch (m : Machine) : UInt16 := m.memory.word m.here.toNat

/-- The machine with its counter past that word. -/
def passed (m : Machine) : Machine := { m with pc := (m.here + 2) % 4096 }

def step (m : Machine) : Reply Unit :=
  let instruction := decode m.fetch
  let log := .fetched m.here m.fetch instruction :: m.passed.notes instruction
  match m.passed.execute instruction with
  | .ok () after => ⟨after, log, .ok ()⟩
  | .error fault left => ⟨{ left with pc := m.here }, log, .error fault⟩

end Machine

/-! ## Runs -/

/-- A run so far: where it is, what it reported, and whether it has ended. -/
structure Run where
  machine : Machine
  /-- The records, latest first. -/
  trail : List Log.Record
  /-- How many steps succeeded. -/
  ran : Nat
  fault : Option Fault

namespace Run

def start (m : Machine) : Run := ⟨m, [], 0, none⟩

/-- One more step. -/
def extend (r : Run) : Run :=
  let reply := r.machine.step
  let trail := reply.log.reverse ++ r.trail
  match reply.result with
  | .ok () => ⟨reply.machine, trail, r.ran + 1, none⟩
  | .error fault => ⟨reply.machine, trail, r.ran, some fault⟩

/-- Up to `n` more steps; a run that has ended stays as it is. -/
def steps : Nat → Run → Run
  | 0, r => r
  | n + 1, r => if r.fault.isSome then r else steps n r.extend

def log (r : Run) : List Log.Record := r.trail.reverse

/-- The run as one call. -/
def reply (r : Run) : Reply Unit :=
  ⟨r.machine, r.log, match r.fault with
    | none => .ok ()
    | some fault => .error fault⟩

theorem steps_of_fault {r : Run} (h : r.fault.isSome) (n : Nat) : r.steps n = r := by
  cases n <;> simp [steps, h]

theorem steps_add (r : Run) (a b : Nat) : r.steps (a + b) = (r.steps a).steps b := by
  induction a generalizing r with
  | zero => simp [steps]
  | succ a ih =>
    rw [Nat.succ_add]
    by_cases h : r.fault.isSome
    · simp [steps_of_fault h]
    · simp [steps, h, ih]

end Run

end Chip8
