/-
# Chip8.Keypad — the sixteen keys and which of them are held

`isHeld` is the view: each operation's lemma says what it does to it.
-/
import Chip8.Keymap

namespace Chip8

set_option autoImplicit false

structure Keypad where
  held : Vector Bool 16
  deriving DecidableEq, Repr

namespace Keypad

/-- No key held. -/
def released : Keypad := ⟨Vector.replicate 16 false⟩

def isHeld (k : Keypad) (key : UInt8) : Bool := Table.get k.held (keySlot key)

def set (k : Keypad) (key : UInt8) (down : Bool) : Keypad :=
  ⟨Table.set k.held (keySlot key) down⟩

/-- A device event: it moves the key that `keymap` gives its code, if there is one. -/
def press (k : Keypad) (keymap : Keymap) (code : UInt32) (down : Bool) : Keypad :=
  match keymap.key? code with
  | some key => k.set key down
  | none => k

/-- The least key held. -/
def first? (k : Keypad) : Option UInt8 := (k.held.toList.findIdx? id).map UInt8.ofNat

/-- One character a key, `o` for held and a space for not. -/
def text (k : Keypad) : String :=
  String.ofList (k.held.toList.map fun b => if b then 'o' else ' ')

@[simp] theorem isHeld_released (key : UInt8) : released.isHeld key = false := by
  simp [released, isHeld]

@[simp] theorem isHeld_set (k : Keypad) (key : UInt8) (down : Bool) (j : UInt8) :
    (k.set key down).isHeld j = if keySlot key = keySlot j then down else k.isHeld j := by
  simp [set, isHeld]

end Keypad

end Chip8
