/-
# Chip8.Proofs.HexReading -- a shown number, read again

Addresses and opcodes are shown behind `0x` with a fixed number of upper-case digits.  An address
below 4096 has three of them and an opcode four, none is left out, and the number they make is the
one shown.

* `upper`, `value`, `numeral`: the digits, what one is worth, and what a row of them is worth;
* `numeral_digits`: a row written to a width is worth what the width holds of the number;
* `Shows`: a text is a number, written to a width; `shows_address`, `shows_opcode`: the two kinds.
-/
import Mathlib.Algebra.Group.Nat.Defs
import Chip8.Text.Hex

namespace Chip8.Hex

set_option autoImplicit false

/-! ## Rows of digits -/

/-- The digits, each at the place of its value. -/
def upper : List Char :=
  ['0', '1', '2', '3', '4', '5', '6', '7', '8', '9', 'A', 'B', 'C', 'D', 'E', 'F']

def value (c : Char) : Nat := upper.idxOf c

/-- The number of a row of digits, the most significant first. -/
def numeral (ds : List Char) : Nat := ds.foldl (fun n c => 16 * n + value c) 0

theorem digit_mem_upper : ∀ d < 16, digit d ∈ upper := by decide

theorem value_digit : ∀ d < 16, value (digit d) = d := by decide

theorem numeral_concat (ds : List Char) (c : Char) :
    numeral (ds ++ [c]) = 16 * numeral ds + value c := by
  simp only [numeral, List.foldl_append, List.foldl_cons, List.foldl_nil]

theorem mem_upper_of_mem_digits {w n : Nat} {c : Char} (member : c ∈ digits w n) : c ∈ upper := by
  induction w generalizing n with
  | zero => cases member
  | succ w ih =>
      rcases List.mem_append.1 member with before | last
      · exact ih before
      · obtain rfl := List.mem_singleton.1 last
        exact digit_mem_upper _ (Nat.mod_lt _ (by decide))

theorem numeral_digits (w n : Nat) : numeral (digits w n) = n % 16 ^ w := by
  induction w generalizing n with
  | zero => simp [digits, numeral, Nat.mod_one]
  | succ w ih =>
      have last : n % 16 < 16 := Nat.mod_lt _ (by decide)
      rw [digits, numeral_concat, ih, value_digit _ last, Nat.pow_succ', Nat.mod_mul, Nat.add_comm]

/-! ## Texts -/

/-- The text is `0x` and `w` digits, all of them upper-case, that make the number `n`. -/
def Shows (text : String) (w n : Nat) : Prop :=
  ∃ ds, text.toList = '0' :: 'x' :: ds ∧ ds.length = w ∧ (∀ c ∈ ds, c ∈ upper) ∧ numeral ds = n

theorem toList_shown (ds : List Char) : ("0x" ++ String.ofList ds).toList = '0' :: 'x' :: ds := by
  simp

theorem shows_digits {w n : Nat} (fits : n < 16 ^ w) :
    Shows ("0x" ++ String.ofList (digits w n)) w n := by
  refine ⟨digits w n, toList_shown _, length_digits w n, fun c => mem_upper_of_mem_digits, ?_⟩
  rw [numeral_digits, Nat.mod_eq_of_lt fits]

/-- **An address has three digits.** -/
theorem shows_address {a : UInt16} (inside : a < 4096) : Shows (address a) 3 a.toNat :=
  shows_digits (UInt16.lt_iff_toNat_lt.1 inside)

/-- **An opcode has four.** -/
theorem shows_opcode (word : UInt16) : Shows (opcode word) 4 word.toNat :=
  shows_digits word.toNat_lt

end Chip8.Hex
