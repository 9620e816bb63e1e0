/-
# Chip8.Sprite — the positions a sprite covers

A sprite is a list of bytes, one for each row and its high bit on the left.  Placed at a
column and a row it covers one position for each set bit; positions beyond an edge are left
to the screen, which wraps them.
-/

namespace Chip8.Sprite

set_option autoImplicit false

/-- The columns that one row covers, from column `x` on. -/
def columns (x : Nat) (row : UInt8) : List Nat :=
  ((List.range 8).filter fun b => row.toNat.testBit (7 - b)).map (x + ·)

/-- The positions a sprite covers at column `x` and row `y`, row by row. -/
def footprint (x y : Nat) : List UInt8 → List (Nat × Nat)
  | [] => []
  | row :: rows => (columns x row).map (·, y) ++ footprint x (y + 1) rows

end Chip8.Sprite
