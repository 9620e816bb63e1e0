/-
# Chip8.Log — what a machine reports while it works

A record is a fact with the values it is about; its level and its wording are functions of
it.  A reader chooses a level and sees the records at or above it.
-/
import Chip8.Instruction
import Chip8.Keypad
import Chip8.Text.Hex

namespace Chip8.Log

set_option autoImplicit false

inductive Level
  | off
  | error
  | warn
  | info
  | debug
  | trace
  deriving DecidableEq, Repr

namespace Level

/-- How much a reader at this level sees; a record is seen from its own rank on. -/
def rank : Level → Nat
  | off => 0
  | error => 1
  | warn => 2
  | info => 3
  | debug => 4
  | trace => 5

def name : Level → String
  | off => "OFF"
  | error => "ERROR"
  | warn => "WARN"
  | info => "INFO"
  | debug => "DEBUG"
  | trace => "TRACE"

end Level

inductive Record
  /-- A machine was built with this seed. -/
  | seeding (seed : UInt64)
  | reset
  /-- The bytes of a program were copied into memory. -/
  | copied (size : Nat)
  | loaded (size : Nat)
  /-- An instruction was fetched and is about to be executed. -/
  | fetched (pc word : UInt16) (instruction : Instruction)
  /-- The instruction just passed over has no meaning. -/
  | unknown (word pc : UInt16)
  /-- The machine waits for a key; `keys` is the keypad it looked at. -/
  | waiting (keys : Keypad)
  deriving DecidableEq, Repr

namespace Record

def level : Record → Level
  | seeding _ | copied _ => .debug
  | reset | loaded _ => .info
  | fetched .. | waiting _ => .trace
  | unknown .. => .warn

def message : Record → String
  | seeding seed => "Seeding RND with " ++ toString seed.toNat
  | reset => "Machine reset"
  | copied size => "Copied " ++ toString size ++ " bytes to 0x200"
  | loaded size => "Loaded ROM [size: " ++ toString size ++ "]"
  | fetched pc word i => Hex.address pc ++ ": " ++ Hex.opcode word ++ " " ++ i.text
  | unknown word pc => "Unknown instruction " ++ Hex.opcode word ++ " at " ++ Hex.address pc
  | waiting keys => "Waiting for key [" ++ keys.text ++ "]"

/-- The record's line: its level, then its message. -/
def line (r : Record) : String := r.level.name ++ " " ++ r.message

end Record

/-- The lines of the records that a reader at `level` sees, in order. -/
def visible (level : Level) (records : List Record) : List String :=
  (records.filter fun r => r.level.rank ≤ level.rank).map Record.line

end Chip8.Log
