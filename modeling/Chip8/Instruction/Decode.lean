/-
# Chip8.Instruction.Decode — an opcode read as an instruction

An opcode is four nibbles, and every operand is a run of them: `Fields` names the runs.
`decode` is total; a word that matches no pattern decodes to `unknown` of itself.

* `Fields.x_lt`, `Fields.y_lt`, `Fields.n_lt`, `Fields.nnn_lt` — the fields fit their widths.
* `inRange_decode` — so does every operand of a decoded instruction.
-/
import Chip8.Instruction

namespace Chip8

set_option autoImplicit false

/-- The operand fields of an opcode, as runs of its nibbles `kxyn`. -/
structure Fields where
  kind : UInt8
  x : UInt8
  y : UInt8
  n : UInt8
  /-- The low byte, nibbles `y` and `n`. -/
  kk : UInt8
  /-- The low twelve bits, nibbles `x`, `y` and `n`. -/
  nnn : UInt16
  deriving DecidableEq, Repr

def Fields.of (word : UInt16) : Fields where
  kind := (word / 4096).toUInt8
  x := (word / 256 % 16).toUInt8
  y := (word / 16 % 16).toUInt8
  n := (word % 16).toUInt8
  kk := (word % 256).toUInt8
  nnn := word % 4096

namespace Fields

variable (word : UInt16)

@[simp] theorem kind_toNat : (of word).kind.toNat = word.toNat / 4096 := by
  have := word.toNat_lt
  simp [of, UInt16.toNat_toUInt8]; omega

@[simp] theorem x_toNat : (of word).x.toNat = word.toNat / 256 % 16 := by
  simp [of, UInt16.toNat_toUInt8]; omega

@[simp] theorem y_toNat : (of word).y.toNat = word.toNat / 16 % 16 := by
  simp [of, UInt16.toNat_toUInt8]; omega

@[simp] theorem n_toNat : (of word).n.toNat = word.toNat % 16 := by
  simp [of, UInt16.toNat_toUInt8]; omega

@[simp] theorem kk_toNat : (of word).kk.toNat = word.toNat % 256 := by
  simp [of, UInt16.toNat_toUInt8]

@[simp] theorem nnn_toNat : (of word).nnn.toNat = word.toNat % 4096 := by
  simp [of]

theorem x_lt : (of word).x < 16 := by
  rw [UInt8.lt_iff_toNat_lt, x_toNat]; exact Nat.mod_lt _ (by decide)

theorem y_lt : (of word).y < 16 := by
  rw [UInt8.lt_iff_toNat_lt, y_toNat]; exact Nat.mod_lt _ (by decide)

theorem n_lt : (of word).n < 16 := by
  rw [UInt8.lt_iff_toNat_lt, n_toNat]; exact Nat.mod_lt _ (by decide)

theorem nnn_lt : (of word).nnn < 4096 := by
  rw [UInt16.lt_iff_toNat_lt, nnn_toNat]; exact Nat.mod_lt _ (by decide)

end Fields

/-- The instruction an opcode spells. -/
def decode (word : UInt16) : Instruction :=
  let f := Fields.of word
  match f.kind.toNat with
  | 0x0 =>
    match f.nnn.toNat with
    | 0x0E0 => .clear
    | 0x0EE => .ret
    | _ => .unknown word
  | 0x1 => .jump f.nnn
  | 0x2 => .call f.nnn
  | 0x3 => .skipEqByte f.x f.kk
  | 0x4 => .skipNeByte f.x f.kk
  | 0x5 => .skipEqReg f.x f.y
  | 0x6 => .loadByte f.x f.kk
  | 0x7 => .addByte f.x f.kk
  | 0x8 =>
    match f.n.toNat with
    | 0x0 => .copy f.x f.y
    | 0x1 => .or f.x f.y
    | 0x2 => .and f.x f.y
    | 0x3 => .xor f.x f.y
    | 0x4 => .add f.x f.y
    | 0x5 => .sub f.x f.y
    | 0x6 => .shiftRight f.x
    | 0x7 => .subFrom f.x f.y
    | 0xE => .shiftLeft f.x
    | _ => .unknown word
  | 0x9 => .skipNeReg f.x f.y
  | 0xA => .loadIndex f.nnn
  | 0xB => .jumpOffset f.nnn
  | 0xC => .random f.x f.kk
  | 0xD => .draw f.x f.y f.n
  | 0xE =>
    match f.kk.toNat with
    | 0x9E => .skipHeld f.x
    | 0xA1 => .skipNotHeld f.x
    | _ => .unknown word
  | 0xF =>
    match f.kk.toNat with
    | 0x07 => .readDelay f.x
    | 0x0A => .waitKey f.x
    | 0x15 => .setDelay f.x
    | 0x18 => .setSound f.x
    | 0x1E => .addIndex f.x
    | 0x29 => .loadGlyph f.x
    | 0x33 => .storeDecimal f.x
    | 0x55 => .storeRegs f.x
    | 0x65 => .loadRegs f.x
    | _ => .unknown word
  | _ => .unknown word

theorem inRange_decode (word : UInt16) : (decode word).InRange := by
  unfold decode
  simp only
  repeat' split
  all_goals
    simp [Instruction.InRange, Fields.x_lt, Fields.y_lt, Fields.n_lt, Fields.nnn_lt]

end Chip8
