/-
# Chip8.Fault — why an operation did not succeed, and what it leaves behind

Two faults come from loading a program, two from the call stack.  The last two are bounds
that a well-formed machine never meets: an index past the end of a table, and a sum that
does not fit sixteen bits.  Instructions check them instead of assuming them, so that "it
never happens" is a statement about runs.

An `Action` is work on a state that may meet a fault on the way.  It leaves a state either
way, the one the fault found it in included: nothing is put back on its own.
-/
import Chip8.Text.Hex
import Chip8.Text.Quoted

namespace Chip8

set_option autoImplicit false

/-- The most bytes a program may have: all of memory from 0x200 up. -/
def maxRomSize : Nat := 3584

inductive Fault
  | romUnreadable (path : String)
  | romTooLarge (size : Nat)
  /-- A call with all stack slots in use; `next` is where it would have returned to. -/
  | stackOverflow (next : UInt16)
  /-- A return with no call to return from; `next` is the address after it. -/
  | stackUnderflow (next : UInt16)
  | outOfRange (length index : Nat)
  | wordOverflow
  deriving DecidableEq, Repr

namespace Fault

def message : Fault → String
  | romUnreadable path => "could not read ROM " ++ quoted path
  | romTooLarge size =>
      "ROM is too large (" ++ toString size ++ " bytes), max size is "
        ++ toString maxRomSize ++ " bytes"
  | stackOverflow next =>
      "stack overflow: CALL with a full call stack, returning to " ++ Hex.address next
  | stackUnderflow next =>
      "stack underflow: RET with an empty call stack, next instruction at " ++ Hex.address next
  | outOfRange length index =>
      "index out of bounds: the len is " ++ toString length ++ " but the index is "
        ++ toString index
  | wordOverflow => "sum does not fit in 16 bits"

/-- The faults that only a malformed machine or an index from outside can meet. -/
def IsBound : Fault → Prop
  | outOfRange .. | wordOverflow => True
  | _ => False

end Fault

/-- The `i`-th entry of a table, or the fault that names the table's length. -/
def entry {α : Type} {n : Nat} (table : Vector α n) (i : Nat) : Except Fault α :=
  if h : i < n then .ok table[i] else .error (.outOfRange n i)

/-- The table with its `i`-th entry replaced, or the fault that names the table's length. -/
def withEntry {α : Type} {n : Nat} (table : Vector α n) (i : Nat) (a : α) :
    Except Fault (Vector α n) :=
  if h : i < n then .ok (table.set i a) else .error (.outOfRange n i)

/-! ## Actions -/

/-- Work on a state that may fail on the way; what it did until then stays done. -/
abbrev Action (σ : Type) := EStateM Fault σ

/-- A check changes nothing. -/
instance {σ : Type} : MonadLift (Except Fault) (Action σ) where
  monadLift
    | .ok a => pure a
    | .error fault => throw fault

@[simp] theorem Action.run_check_ok {σ α : Type} (a : α) (s : σ) :
    EStateM.run (liftM (.ok a : Except Fault α) : Action σ α) s = .ok a s := rfl

@[simp] theorem Action.run_check_error {σ α : Type} (fault : Fault) (s : σ) :
    EStateM.run (liftM (.error fault : Except Fault α) : Action σ α) s = .error fault s := rfl

end Chip8
