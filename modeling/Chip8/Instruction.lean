/-
# Chip8.Instruction — the thirty-four operations, and the word that is none of them

Operands keep the width they are stored in: a register number, an immediate byte and a
nibble are bytes, an address is a word.  `InRange` says which values an opcode can spell:
register numbers and nibbles below 16, addresses below 4096.
-/

namespace Chip8

set_option autoImplicit false

inductive Instruction
  /-- Opcode 00E0. -/
  | clear
  /-- Opcode 00EE. -/
  | ret
  /-- Opcode 1nnn. -/
  | jump (address : UInt16)
  /-- Opcode 2nnn. -/
  | call (address : UInt16)
  /-- Opcode 3xkk. -/
  | skipEqByte (x byte : UInt8)
  /-- Opcode 4xkk. -/
  | skipNeByte (x byte : UInt8)
  /-- Opcode 5xyn; `n` is ignored. -/
  | skipEqReg (x y : UInt8)
  /-- Opcode 6xkk. -/
  | loadByte (x byte : UInt8)
  /-- Opcode 7xkk. -/
  | addByte (x byte : UInt8)
  /-- Opcode 8xy0. -/
  | copy (x y : UInt8)
  /-- Opcode 8xy1. -/
  | or (x y : UInt8)
  /-- Opcode 8xy2. -/
  | and (x y : UInt8)
  /-- Opcode 8xy3. -/
  | xor (x y : UInt8)
  /-- Opcode 8xy4. -/
  | add (x y : UInt8)
  /-- Opcode 8xy5. -/
  | sub (x y : UInt8)
  /-- Opcode 8xy6; `y` is ignored. -/
  | shiftRight (x : UInt8)
  /-- Opcode 8xy7. -/
  | subFrom (x y : UInt8)
  /-- Opcode 8xyE; `y` is ignored. -/
  | shiftLeft (x : UInt8)
  /-- Opcode 9xyn; `n` is ignored. -/
  | skipNeReg (x y : UInt8)
  /-- Opcode Annn. -/
  | loadIndex (address : UInt16)
  /-- Opcode Bnnn. -/
  | jumpOffset (address : UInt16)
  /-- Opcode Cxkk. -/
  | random (x byte : UInt8)
  /-- Opcode Dxyn. -/
  | draw (x y rows : UInt8)
  /-- Opcode Ex9E. -/
  | skipHeld (x : UInt8)
  /-- Opcode ExA1. -/
  | skipNotHeld (x : UInt8)
  /-- Opcode Fx07. -/
  | readDelay (x : UInt8)
  /-- Opcode Fx0A. -/
  | waitKey (x : UInt8)
  /-- Opcode Fx15. -/
  | setDelay (x : UInt8)
  /-- Opcode Fx18. -/
  | setSound (x : UInt8)
  /-- Opcode Fx1E. -/
  | addIndex (x : UInt8)
  /-- Opcode Fx29. -/
  | loadGlyph (x : UInt8)
  /-- Opcode Fx33. -/
  | storeDecimal (x : UInt8)
  /-- Opcode Fx55. -/
  | storeRegs (x : UInt8)
  /-- Opcode Fx65. -/
  | loadRegs (x : UInt8)
  /-- Any other word; it does nothing. -/
  | unknown (word : UInt16)
  deriving DecidableEq, Repr

namespace Instruction

/-- The operands fit the fields of an opcode. -/
def InRange : Instruction → Prop
  | clear | ret | unknown _ => True
  | jump a | call a | loadIndex a | jumpOffset a => a < 4096
  | skipEqByte x _ | skipNeByte x _ | loadByte x _ | addByte x _ | random x _ => x < 16
  | skipEqReg x y | copy x y | or x y | and x y | xor x y | add x y | sub x y | subFrom x y
  | skipNeReg x y => x < 16 ∧ y < 16
  | draw x y n => x < 16 ∧ y < 16 ∧ n < 16
  | shiftRight x | shiftLeft x | skipHeld x | skipNotHeld x | readDelay x | waitKey x
  | setDelay x | setSound x | addIndex x | loadGlyph x | storeDecimal x | storeRegs x
  | loadRegs x => x < 16

/-! ## Text -/

/-- The operation's name and its operands. -/
def parts : Instruction → String × List Nat
  | clear => ("Clear", [])
  | ret => ("Return", [])
  | jump a => ("Jump", [a.toNat])
  | call a => ("Call", [a.toNat])
  | skipEqByte x k => ("SkipIfEqualImmediate", [x.toNat, k.toNat])
  | skipNeByte x k => ("SkipIfNotEqualImmediate", [x.toNat, k.toNat])
  | skipEqReg x y => ("SkipIfEqualRegister", [x.toNat, y.toNat])
  | loadByte x k => ("LoadRegisterImmediate", [x.toNat, k.toNat])
  | addByte x k => ("AddRegisterImmediate", [x.toNat, k.toNat])
  | copy x y => ("LoadRegisterRegister", [x.toNat, y.toNat])
  | or x y => ("Or", [x.toNat, y.toNat])
  | and x y => ("And", [x.toNat, y.toNat])
  | xor x y => ("Xor", [x.toNat, y.toNat])
  | add x y => ("AddRegisterRegister", [x.toNat, y.toNat])
  | sub x y => ("Sub", [x.toNat, y.toNat])
  | shiftRight x => ("ShiftRight", [x.toNat])
  | subFrom x y => ("SubNegated", [x.toNat, y.toNat])
  | shiftLeft x => ("ShiftLeft", [x.toNat])
  | skipNeReg x y => ("SkipIfNotEqualRegister", [x.toNat, y.toNat])
  | loadIndex a => ("LoadIndex", [a.toNat])
  | jumpOffset a => ("JumpOffset", [a.toNat])
  | random x k => ("Random", [x.toNat, k.toNat])
  | draw x y n => ("Draw", [x.toNat, y.toNat, n.toNat])
  | skipHeld x => ("SkipIfPressed", [x.toNat])
  | skipNotHeld x => ("SkipIfNotPressed", [x.toNat])
  | readDelay x => ("LoadFromDelayTimer", [x.toNat])
  | waitKey x => ("WaitForKey", [x.toNat])
  | setDelay x => ("SetDelayTimer", [x.toNat])
  | setSound x => ("SetSoundTimer", [x.toNat])
  | addIndex x => ("AddIndex", [x.toNat])
  | loadGlyph x => ("LoadFontSprite", [x.toNat])
  | storeDecimal x => ("StoreBcd", [x.toNat])
  | storeRegs x => ("StoreRegisters", [x.toNat])
  | loadRegs x => ("LoadRegisters", [x.toNat])
  | unknown w => ("Unknown", [w.toNat])

/-- The name, then the operands in decimal between parentheses if there are any. -/
def text (i : Instruction) : String :=
  match i.parts with
  | (name, []) => name
  | (name, operands) => name ++ "(" ++ ", ".intercalate (operands.map toString) ++ ")"

end Instruction

end Chip8
