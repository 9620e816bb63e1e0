/-
# Chip8.Machine.Operation — what a host may do with a machine

A host switches a machine on, loads programs into it, steps it, moves its keys and lets its
timers run.  `Operation` lists these calls and `Machine.perform` does one; whatever happens
to a machine after it was switched on is a list of them.
-/
import Chip8.Machine.Step

namespace Chip8

set_option autoImplicit false

namespace Machine

/-! ## The calls -/

/-- Copies a program into memory. -/
def load (m : Machine) (rom : List UInt8) : Reply Unit :=
  match (Memory.load rom).run m.memory with
  | .ok () memory => ⟨{ m with memory }, [.copied rom.length, .loaded rom.length], .ok ()⟩
  | .error fault memory => ⟨{ m with memory }, [], .error fault⟩

/-- Loads a program file; `content` is what reading the file gave, if it could be read. -/
def loadFile (m : Machine) (path : String) (content : Option (List UInt8)) : Reply Unit :=
  match content with
  | some rom => m.load rom
  | none => ⟨m, [], .error (.romUnreadable path)⟩

/-- One frame: the timers count down once, then up to `n` steps. -/
def frame (m : Machine) (n : Nat) : Reply Unit := ((Run.start m.countDown).steps n).reply

/-- Moves a key by its device code. -/
def press (m : Machine) (code : UInt32) (down : Bool) : Machine :=
  { m with keypad := m.keypad.press m.config.keymap code down }

/-- Switches a machine on, with a program in memory if one is given.  `drawn` stands in for
a seed that the configuration does not give. -/
def boot (config : Config) (drawn : UInt64) (rom : Option (List UInt8)) : Reply Unit :=
  let m := start config drawn
  let seeding : Log.Record := .seeding m.random.seed
  match rom with
  | none => ⟨m, [seeding], .ok ()⟩
  | some rom =>
    let reply := m.load rom
    { reply with log := seeding :: reply.log }

end Machine

/-! ## Calls as data -/

inductive Operation
  | step
  | frame (steps : Nat)
  /-- Counts the timers down; answers whether there is sound after it. -/
  | tick
  /-- Answers whether there is sound. -/
  | listen
  | press (code : UInt32) (down : Bool)
  | reset
  | load (rom : List UInt8)
  | loadFile (path : String) (content : Option (List UInt8))
  deriving DecidableEq, Repr

inductive Answer
  | done
  | sounding (on : Bool)
  deriving DecidableEq, Repr

namespace Reply

/-- The reply of a call that returns nothing. -/
def answered (r : Reply Unit) : Reply Answer :=
  ⟨r.machine, r.log, r.result.map fun _ => .done⟩

end Reply

namespace Machine

def perform (m : Machine) : Operation → Reply Answer
  | .step => m.step.answered
  | .frame n => (m.frame n).answered
  | .tick => ⟨m.countDown, [], .ok (.sounding m.countDown.isSounding)⟩
  | .listen => ⟨m, [], .ok (.sounding m.isSounding)⟩
  | .press code down => ⟨m.press code down, [], .ok .done⟩
  | .reset => ⟨m.reset, [.reset], .ok .done⟩
  | .load rom => (m.load rom).answered
  | .loadFile path content => (m.loadFile path content).answered

/-- The replies to a list of calls, made one after another; a fault stops none of them. -/
def performAll (m : Machine) : List Operation → List (Reply Answer)
  | [] => []
  | op :: ops => m.perform op :: (m.perform op).machine.performAll ops

/-- The machine after a list of calls. -/
def after (m : Machine) (ops : List Operation) : Machine :=
  ops.foldl (fun m op => (m.perform op).machine) m

end Machine

end Chip8
