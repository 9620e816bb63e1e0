/-
# Chip8.Screen — 64 by 32 cells, each on or off

The cells are kept row by row, one byte each; `1` is on and `0` is off, and every operation
writes one of the two.  A cell is named by its number, which must be in range, or by its
column and row, which wrap around the edges and so always name a cell.

* `Screen.pixel` is the view; `cell_inj` says that on the screen two positions are two cells.
* `flip` turns one cell over and tells whether it was on.
-/
import Chip8.Fault
import Chip8.Table

namespace Chip8

set_option autoImplicit false

structure Screen where
  cells : Vector UInt8 2048
  deriving DecidableEq, Repr

namespace Screen

def width : Nat := 64

def height : Nat := 32

/-- The number of the cell in column `x` and row `y`, counted along the rows. -/
def number (x y : Nat) : Nat := y * width + x

/-- All cells off. -/
def blank : Screen := ⟨Vector.replicate 2048 0⟩

/-! ## By number -/

def read (s : Screen) (i : Nat) : Except Fault UInt8 := entry s.cells i

/-- Any value but zero turns the cell on. -/
def write (s : Screen) (i : Nat) (value : UInt8) : Except Fault Screen := do
  return ⟨← withEntry s.cells i (if value = 0 then 0 else 1)⟩

/-! ## By position -/

/-- The cell at a position, both coordinates wrapped. -/
def cell (x y : Nat) : Fin 2048 :=
  ⟨number (x % width) (y % height), by
    have := Nat.mod_lt x (by decide : 0 < width)
    have := Nat.mod_lt y (by decide : 0 < height)
    simp only [number, width, height] at *; omega⟩

def pixel (s : Screen) (x y : Nat) : UInt8 := Table.get s.cells (cell x y)

/-- The screen with one cell turned over. -/
def toggle (s : Screen) (x y : Nat) : Screen :=
  ⟨Table.set s.cells (cell x y) (if s.pixel x y ^^^ 1 = 0 then 0 else 1)⟩

def isOn (s : Screen) (x y : Nat) : Bool := s.pixel x y == 1

/-- Turns a list of positions over, one after another; true if one of them was on when its
turn came. -/
def flip (s : Screen) : List (Nat × Nat) → Screen × Bool
  | [] => (s, false)
  | (x, y) :: rest =>
    let (s', hit) := (s.toggle x y).flip rest
    (s', s.isOn x y || hit)

theorem cell_inj {x y x' y' : Nat} :
    cell x y = cell x' y' ↔ x % 64 = x' % 64 ∧ y % 32 = y' % 32 := by
  simp only [cell, number, width, height, Fin.mk.injEq]
  omega

theorem pixel_toggle (s : Screen) (x y x' y' : Nat) :
    (s.toggle x y).pixel x' y' =
      if cell x y = cell x' y' then (if s.pixel x y ^^^ 1 = 0 then 0 else 1)
      else s.pixel x' y' := by
  simp [toggle, pixel]

@[simp] theorem pixel_blank (x y : Nat) : blank.pixel x y = 0 := by
  simp [pixel, blank]

end Screen

end Chip8
