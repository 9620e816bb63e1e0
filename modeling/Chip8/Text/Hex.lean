/-
# Chip8.Text.Hex — numbers in upper-case hexadecimal, at a fixed width

Addresses and opcodes are shown with a fixed number of digits, leading zeros included.

* `digits w n` — the low `w` hexadecimal digits of `n`, most significant first.
* `address`, `opcode` — the two widths in use, behind `0x`.
-/

namespace Chip8.Hex

set_option autoImplicit false

/-- One digit, `0`–`9` then `A`–`F`. -/
def digit (d : Nat) : Char :=
  if d < 10 then Char.ofNat (48 + d) else Char.ofNat (55 + d)

def digits : Nat → Nat → List Char
  | 0, _ => []
  | w + 1, n => digits w (n / 16) ++ [digit (n % 16)]

/-- A 12-bit address, three digits. -/
def address (a : UInt16) : String := "0x" ++ String.ofList (digits 3 a.toNat)

/-- An opcode, four digits. -/
def opcode (w : UInt16) : String := "0x" ++ String.ofList (digits 4 w.toNat)

@[simp] theorem length_digits (w n : Nat) : (digits w n).length = w := by
  induction w generalizing n with
  | zero => rfl
  | succ w ih => simp [digits, ih]

end Chip8.Hex
