/-
# Chip8.Keymap — which device code presses which of the sixteen keys

A keymap is a table of sixteen codes, one for each key; the codes mean nothing to the
machine.  A code that stands in the table more than once presses the least of its keys, and
a code that does not stand in it presses none.
-/
import Chip8.Table

namespace Chip8

set_option autoImplicit false

structure Keymap where
  codes : Vector UInt32 16
  deriving DecidableEq, Repr

/-- Keys count modulo 16. -/
def keySlot (key : UInt8) : Fin 16 := ⟨key.toNat % 16, Nat.mod_lt _ (by decide)⟩

namespace Keymap

/-- The least key bound to `code`. -/
def key? (k : Keymap) (code : UInt32) : Option UInt8 :=
  (k.codes.toList.findIdx? (· == code)).map UInt8.ofNat

/-- The code bound to a key. -/
def code (k : Keymap) (key : UInt8) : UInt32 := Table.get k.codes (keySlot key)

/-- The left half of a keyboard, as character codes:

```text
1 2 3 4        1 2 3 C
q w e r   ->   4 5 6 D
a s d f        7 8 9 E
z x c v        A 0 B F
```
-/
def standard : Keymap where
  codes := #v['x', '1', '2', '3', 'q', 'w', 'e', 'a', 's', 'd', 'z', 'c', '4', 'r', 'f', 'v'].map
    Char.val

end Keymap

end Chip8
