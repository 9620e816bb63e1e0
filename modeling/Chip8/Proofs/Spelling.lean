/-
# Chip8.Proofs.Spelling -- which opcodes spell which instruction

`decode` reads an opcode by cases on its first nibble, then on its last ones.  Here is the
same the other way around, as the table of opcode patterns: `SpelledBy word i` says that
the word has the pattern of `i` and holds its operands.

* `decode_eq_iff`: a word decodes to an instruction exactly when it spells it, so every
  word spells one instruction and no other;
* `Unassigned`: the words with none of the patterns, which spell `unknown`.
-/
import Chip8.Instruction.Decode

namespace Chip8

set_option autoImplicit false

/-- The word has no pattern: its first nibble leads to further ones, and these lead
nowhere. -/
def Unassigned (word : UInt16) : Prop :=
  let f := Fields.of word
  (f.kind = 0x0 ∧ word ≠ 0x00E0 ∧ word ≠ 0x00EE) ∨
    (f.kind = 0x8 ∧ 0x7 < f.n ∧ f.n ≠ 0xE) ∨
    (f.kind = 0xE ∧ f.kk ≠ 0x9E ∧ f.kk ≠ 0xA1) ∨
    (f.kind = 0xF ∧ f.kk ∉ [0x07, 0x0A, 0x15, 0x18, 0x1E, 0x29, 0x33, 0x55, 0x65])

/-- The word has the pattern of the instruction, with its operands in their places. -/
def Instruction.SpelledBy (word : UInt16) (i : Instruction) : Prop :=
  let f := Fields.of word
  match i with
  | clear => word = 0x00E0
  | ret => word = 0x00EE
  | jump a => f.kind = 0x1 ∧ a = f.nnn
  | call a => f.kind = 0x2 ∧ a = f.nnn
  | skipEqByte x k => f.kind = 0x3 ∧ x = f.x ∧ k = f.kk
  | skipNeByte x k => f.kind = 0x4 ∧ x = f.x ∧ k = f.kk
  | skipEqReg x y => f.kind = 0x5 ∧ x = f.x ∧ y = f.y
  | loadByte x k => f.kind = 0x6 ∧ x = f.x ∧ k = f.kk
  | addByte x k => f.kind = 0x7 ∧ x = f.x ∧ k = f.kk
  | copy x y => f.kind = 0x8 ∧ f.n = 0x0 ∧ x = f.x ∧ y = f.y
  | or x y => f.kind = 0x8 ∧ f.n = 0x1 ∧ x = f.x ∧ y = f.y
  | and x y => f.kind = 0x8 ∧ f.n = 0x2 ∧ x = f.x ∧ y = f.y
  | xor x y => f.kind = 0x8 ∧ f.n = 0x3 ∧ x = f.x ∧ y = f.y
  | add x y => f.kind = 0x8 ∧ f.n = 0x4 ∧ x = f.x ∧ y = f.y
  | sub x y => f.kind = 0x8 ∧ f.n = 0x5 ∧ x = f.x ∧ y = f.y
  | shiftRight x => f.kind = 0x8 ∧ f.n = 0x6 ∧ x = f.x
  | subFrom x y => f.kind = 0x8 ∧ f.n = 0x7 ∧ x = f.x ∧ y = f.y
  | shiftLeft x => f.kind = 0x8 ∧ f.n = 0xE ∧ x = f.x
  | skipNeReg x y => f.kind = 0x9 ∧ x = f.x ∧ y = f.y
  | loadIndex a => f.kind = 0xA ∧ a = f.nnn
  | jumpOffset a => f.kind = 0xB ∧ a = f.nnn
  | random x k => f.kind = 0xC ∧ x = f.x ∧ k = f.kk
  | draw x y n => f.kind = 0xD ∧ x = f.x ∧ y = f.y ∧ n = f.n
  | skipHeld x => f.kind = 0xE ∧ f.kk = 0x9E ∧ x = f.x
  | skipNotHeld x => f.kind = 0xE ∧ f.kk = 0xA1 ∧ x = f.x
  | readDelay x => f.kind = 0xF ∧ f.kk = 0x07 ∧ x = f.x
  | waitKey x => f.kind = 0xF ∧ f.kk = 0x0A ∧ x = f.x
  | setDelay x => f.kind = 0xF ∧ f.kk = 0x15 ∧ x = f.x
  | setSound x => f.kind = 0xF ∧ f.kk = 0x18 ∧ x = f.x
  | addIndex x => f.kind = 0xF ∧ f.kk = 0x1E ∧ x = f.x
  | loadGlyph x => f.kind = 0xF ∧ f.kk = 0x29 ∧ x = f.x
  | storeDecimal x => f.kind = 0xF ∧ f.kk = 0x33 ∧ x = f.x
  | storeRegs x => f.kind = 0xF ∧ f.kk = 0x55 ∧ x = f.x
  | loadRegs x => f.kind = 0xF ∧ f.kk = 0x65 ∧ x = f.x
  | unknown w => w = word ∧ Unassigned word

theorem Fields.kind_eq_iff (word : UInt16) (k : UInt8) :
    (of word).kind = k ↔ word / 4096 = k.toUInt16 := by
  rw [← UInt8.toNat_inj, ← UInt16.toNat_inj, kind_toNat, UInt16.toNat_div, UInt8.toNat_toUInt16]
  rfl

theorem Fields.kk_eq_iff (word : UInt16) (k : UInt8) :
    (of word).kk = k ↔ word % 256 = k.toUInt16 := by
  rw [← UInt8.toNat_inj, ← UInt16.toNat_inj, kk_toNat, UInt16.toNat_mod, UInt8.toNat_toUInt16]
  rfl

namespace Instruction

/-- A word spells the instruction it decodes to. -/
theorem spelledBy_decode (word : UInt16) : (decode word).SpelledBy word := by
  have bound := word.toNat_lt
  unfold decode
  simp only
  repeat' split
  -- One goal for each branch; those of the words without a pattern are left to arithmetic.
  all_goals
    simp_all [SpelledBy, Unassigned, ← UInt8.toNat_inj, ← UInt16.toNat_inj,
      UInt8.lt_iff_toNat_lt]
  all_goals omega

/-- A word spells no other instruction than the one it decodes to. -/
theorem decode_eq_of_spelledBy {word : UInt16} {i : Instruction} (spelled : i.SpelledBy word) :
    decode word = i := by
  cases i with
  | clear | ret =>
      cases spelled
      rfl
  | unknown w =>
      obtain ⟨rfl, none⟩ := spelled
      unfold decode
      simp only
      repeat' split
      -- Every branch that leads to a pattern contradicts one of the four in `Unassigned`.
      all_goals
        simp_all [Unassigned, ← UInt8.toNat_inj, ← UInt16.toNat_inj,
          UInt8.lt_iff_toNat_lt]
      all_goals omega
  | jump a | call a | loadIndex a | jumpOffset a =>
      obtain ⟨kind, rfl⟩ := spelled
      rw [decode, kind]
      rfl
  | skipEqByte x y | skipNeByte x y | skipEqReg x y | skipNeReg x y | loadByte x y
  | addByte x y | random x y =>
      obtain ⟨kind, rfl, rfl⟩ := spelled
      rw [decode, kind]
      rfl
  | draw x y n =>
      obtain ⟨kind, rfl, rfl, rfl⟩ := spelled
      rw [decode, kind]
      rfl
  | copy x y | or x y | and x y | xor x y | add x y | sub x y | subFrom x y =>
      obtain ⟨kind, low, rfl, rfl⟩ := spelled
      rw [decode, kind, low]
      rfl
  | _ x =>
      obtain ⟨kind, low, rfl⟩ := spelled
      rw [decode, kind, low]
      rfl

/-- **A word decodes to the instruction it spells, and to no other.** -/
theorem decode_eq_iff {word : UInt16} {i : Instruction} :
    decode word = i ↔ i.SpelledBy word :=
  ⟨fun same => same ▸ spelledBy_decode word, decode_eq_of_spelledBy⟩

end Instruction

end Chip8
