/-
# Chip8.Proofs.Encoding -- the opcode of an instruction, and what decoding loses

`encode` spells an instruction as an opcode, with zeros in the bits that its pattern leaves out.
Decoding an opcode and encoding the result clears exactly these bits, so two opcodes decode to
the same instruction when they differ in nothing else.

* `patterns`: the opcode patterns as a table; `unassigned_iff`: the words that match none of
  them are those that spell no operation;
* `decode_encode`: every instruction with operands in range is the one its opcode spells;
* `encode_decode`: encoding what a word decodes to clears its ignored nibble;
* `cleared_eq_iff`: which two words this makes the same, so what decoding is injective up to;
* `decode_kernel_range`: what decoding identifies, and what it reaches.
-/
import Chip8.Proofs.Spelling

namespace Chip8

set_option autoImplicit false

/-! ## Patterns -/

/-- What an opcode pattern fixes of a word. -/
inductive Pattern
  /-- All of it. -/
  | word (bits : UInt16)
  /-- Its first nibble. -/
  | first (kind : UInt8)
  /-- Its first nibble and its last. -/
  | ends (kind n : UInt8)
  /-- Its first nibble and its low byte. -/
  | low (kind kk : UInt8)
  deriving DecidableEq, Repr

namespace Pattern

def Matches (word : UInt16) : Pattern → Prop
  | .word bits => word = bits
  | .first kind => (Fields.of word).kind = kind
  | .ends kind n => (Fields.of word).kind = kind ∧ (Fields.of word).n = n
  | .low kind kk => (Fields.of word).kind = kind ∧ (Fields.of word).kk = kk

end Pattern

/-- The patterns of the instruction set: 00E0 and 00EE, 1nnn to 7xkk, 8xy0 to 8xy7 and 8xyE,
9xyn, Annn to Dxyn, Ex9E and ExA1, and the nine of the form Fxkk. -/
def patterns : List Pattern :=
  [.word 0x00E0, .word 0x00EE,
    .first 0x1, .first 0x2, .first 0x3, .first 0x4, .first 0x5, .first 0x6, .first 0x7,
    .ends 0x8 0x0, .ends 0x8 0x1, .ends 0x8 0x2, .ends 0x8 0x3, .ends 0x8 0x4, .ends 0x8 0x5,
    .ends 0x8 0x6, .ends 0x8 0x7, .ends 0x8 0xE,
    .first 0x9, .first 0xA, .first 0xB, .first 0xC, .first 0xD,
    .low 0xE 0x9E, .low 0xE 0xA1,
    .low 0xF 0x07, .low 0xF 0x0A, .low 0xF 0x15, .low 0xF 0x18, .low 0xF 0x1E, .low 0xF 0x29,
    .low 0xF 0x33, .low 0xF 0x55, .low 0xF 0x65]

/-- **The words without a pattern** are those that spell no operation. -/
theorem unassigned_iff {word : UInt16} :
    Unassigned word ↔ ∀ p ∈ patterns, ¬ p.Matches word := by
  constructor
  · intro unassigned
    have bound := word.toNat_lt
    simp [patterns, Pattern.Matches, Unassigned, ← UInt8.toNat_inj, ← UInt16.toNat_inj,
      UInt8.lt_iff_toNat_lt] at unassigned ⊢
    omega
  · intro none
    have spelled := Instruction.spelledBy_decode word
    generalize decode word = i at spelled
    cases i with
    | unknown w =>
        exact spelled.2
    | clear | ret =>
        exact (none (.word _) (by decide) spelled).elim
    | jump _ | call _ | loadIndex _ | jumpOffset _ | skipEqByte _ _ | skipNeByte _ _
    | skipEqReg _ _ | skipNeReg _ _ | loadByte _ _ | addByte _ _ | random _ _ | draw _ _ _ =>
        exact (none (.first _) (by decide) spelled.1).elim
    | copy _ _ | or _ _ | and _ _ | xor _ _ | add _ _ | sub _ _ | subFrom _ _ | shiftRight _
    | shiftLeft _ =>
        exact (none (.ends _ _) (by decide) ⟨spelled.1, spelled.2.1⟩).elim
    | _ x =>
        exact (none (.low _ _) (by decide) ⟨spelled.1, spelled.2.1⟩).elim

/-! ## Encoding -/

/-- A pattern's fixed bits with a register number and a byte in their places. -/
def packByte (bits : UInt16) (x k : UInt8) : UInt16 := bits + 256 * x.toUInt16 + k.toUInt16

/-- A pattern's fixed bits with two register numbers in their places. -/
def packRegs (bits : UInt16) (x y : UInt8) : UInt16 :=
  bits + 256 * x.toUInt16 + 16 * y.toUInt16

namespace Instruction

/-- The opcode of an instruction, with zeros where its pattern leaves bits out. -/
def encode : Instruction → UInt16
  | clear => 0x00E0
  | ret => 0x00EE
  | jump a => 0x1000 + a
  | call a => 0x2000 + a
  | skipEqByte x k => packByte 0x3000 x k
  | skipNeByte x k => packByte 0x4000 x k
  | skipEqReg x y => packRegs 0x5000 x y
  | loadByte x k => packByte 0x6000 x k
  | addByte x k => packByte 0x7000 x k
  | copy x y => packRegs 0x8000 x y
  | or x y => packRegs 0x8001 x y
  | and x y => packRegs 0x8002 x y
  | xor x y => packRegs 0x8003 x y
  | add x y => packRegs 0x8004 x y
  | sub x y => packRegs 0x8005 x y
  | shiftRight x => packByte 0x8000 x 0x06
  | subFrom x y => packRegs 0x8007 x y
  | shiftLeft x => packByte 0x8000 x 0x0E
  | skipNeReg x y => packRegs 0x9000 x y
  | loadIndex a => 0xA000 + a
  | jumpOffset a => 0xB000 + a
  | random x k => packByte 0xC000 x k
  | draw x y n => packRegs (0xD000 + n.toUInt16) x y
  | skipHeld x => packByte 0xE000 x 0x9E
  | skipNotHeld x => packByte 0xE000 x 0xA1
  | readDelay x => packByte 0xF000 x 0x07
  | waitKey x => packByte 0xF000 x 0x0A
  | setDelay x => packByte 0xF000 x 0x15
  | setSound x => packByte 0xF000 x 0x18
  | addIndex x => packByte 0xF000 x 0x1E
  | loadGlyph x => packByte 0xF000 x 0x29
  | storeDecimal x => packByte 0xF000 x 0x33
  | storeRegs x => packByte 0xF000 x 0x55
  | loadRegs x => packByte 0xF000 x 0x65
  | unknown w => w

/-- **Every operation with operands in range is decoded from its opcode**, and so is a word
without a pattern from itself. -/
theorem decode_encode {i : Instruction} (range : i.InRange)
    (none : ∀ w, i = unknown w → Unassigned w) : decode i.encode = i := by
  rw [decode_eq_iff]
  cases i with
  | clear | ret => rfl
  | unknown w => exact ⟨rfl, none w rfl⟩
  | skipEqByte _ k | skipNeByte _ k | loadByte _ k | addByte _ k | random _ k =>
      have byte := k.toNat_lt
      simp [InRange, SpelledBy, encode, packByte, ← UInt8.toNat_inj,
        UInt8.lt_iff_toNat_lt] at range ⊢
      omega
  | _ =>
      simp [InRange, SpelledBy, encode, packByte, packRegs, ← UInt8.toNat_inj,
        ← UInt16.toNat_inj, UInt8.lt_iff_toNat_lt, UInt16.lt_iff_toNat_lt] at range ⊢
      omega

end Instruction

/-! ## Ignored nibbles -/

/-- The pattern of the word leaves out its last nibble: 5xyn and 9xyn. -/
def LastIgnored (word : UInt16) : Prop :=
  (Fields.of word).kind = 0x5 ∨ (Fields.of word).kind = 0x9

/-- The pattern of the word leaves out its third nibble: 8xy6 and 8xyE. -/
def ThirdIgnored (word : UInt16) : Prop :=
  (Fields.of word).kind = 0x8 ∧ ((Fields.of word).n = 0x6 ∨ (Fields.of word).n = 0xE)

instance : DecidablePred LastIgnored := fun word =>
  inferInstanceAs (Decidable ((Fields.of word).kind = 0x5 ∨ (Fields.of word).kind = 0x9))

instance : DecidablePred ThirdIgnored := fun word =>
  inferInstanceAs (Decidable ((Fields.of word).kind = 0x8 ∧
    ((Fields.of word).n = 0x6 ∨ (Fields.of word).n = 0xE)))

/-- A word with zero for the nibble that its pattern leaves out. -/
def cleared (word : UInt16) : UInt16 :=
  if LastIgnored word then word / 16 * 16
  else if ThirdIgnored word then word / 256 * 256 + word % 16
  else word

section

variable {word : UInt16}

theorem not_lastIgnored (kind : (Fields.of word).kind = 0x8) : ¬ LastIgnored word := by
  unfold LastIgnored
  rw [kind]
  decide

theorem cleared_of_lastIgnored (ignored : LastIgnored word) : cleared word = word / 16 * 16 :=
  if_pos ignored

theorem cleared_of_thirdIgnored (ignored : ThirdIgnored word) :
    cleared word = word / 256 * 256 + word % 16 := by
  rw [cleared, if_neg (not_lastIgnored ignored.1), if_pos ignored]

theorem cleared_of_not_ignored (last : ¬ LastIgnored word) (third : ¬ ThirdIgnored word) :
    cleared word = word := by
  rw [cleared, if_neg last, if_neg third]

theorem cleared_of_kind {kind : UInt8} (first : (Fields.of word).kind = kind)
    (whole : kind ∉ [0x5, 0x8, 0x9]) : cleared word = word := by
  simp at whole
  apply cleared_of_not_ignored
  · simp [LastIgnored, first, whole]
  · simp [ThirdIgnored, first, whole]

theorem cleared_of_n {n : UInt8} (kind : (Fields.of word).kind = 0x8)
    (last : (Fields.of word).n = n) (whole : n ∉ [0x6, 0xE]) : cleared word = word := by
  simp at whole
  apply cleared_of_not_ignored (not_lastIgnored kind)
  simp [ThirdIgnored, last, whole]

/-- A word without a pattern leaves out nothing. -/
theorem cleared_of_unassigned (unassigned : Unassigned word) : cleared word = word := by
  have none := unassigned_iff.1 unassigned
  apply cleared_of_not_ignored
  · rintro (five | nine)
    · exact none (.first 0x5) (by decide) five
    · exact none (.first 0x9) (by decide) nine
  · rintro ⟨kind, right | left⟩
    · exact none (.ends 0x8 0x6) (by decide) ⟨kind, right⟩
    · exact none (.ends 0x8 0xE) (by decide) ⟨kind, left⟩

/-- Clearing keeps the nibbles that tell what is cleared. -/
theorem kind_cleared (word : UInt16) : (Fields.of (cleared word)).kind = (Fields.of word).kind := by
  have bound := word.toNat_lt
  rw [← UInt8.toNat_inj, Fields.kind_toNat, Fields.kind_toNat, cleared]
  split
  · simp
    omega
  · split
    · simp
      omega
    · rfl

theorem n_cleared (high : ¬ LastIgnored word) :
    (Fields.of (cleared word)).n = (Fields.of word).n := by
  rw [← UInt8.toNat_inj, Fields.n_toNat, Fields.n_toNat, cleared, if_neg high]
  split
  · simp
    omega
  · rfl

theorem lastIgnored_cleared (word : UInt16) : LastIgnored (cleared word) ↔ LastIgnored word := by
  rw [LastIgnored, LastIgnored, kind_cleared]

theorem thirdIgnored_cleared (word : UInt16) :
    ThirdIgnored (cleared word) ↔ ThirdIgnored word := by
  rw [ThirdIgnored, ThirdIgnored, kind_cleared]
  refine and_congr_right fun kind => ?_
  rw [n_cleared (not_lastIgnored kind)]

end

/-- **Words with the same cleared word** are the same, or differ in one ignored nibble. -/
theorem cleared_eq_iff {a b : UInt16} :
    cleared a = cleared b ↔
      a = b ∨ (LastIgnored a ∧ LastIgnored b ∧ a / 16 = b / 16) ∨
        (ThirdIgnored a ∧ ThirdIgnored b ∧ a / 256 = b / 256 ∧ a % 16 = b % 16) := by
  have boundA := a.toNat_lt
  have boundB := b.toNat_lt
  constructor
  · intro same
    -- Which nibble is ignored can be told from the cleared word, so it is the same one in both.
    have last : LastIgnored a ↔ LastIgnored b := by
      rw [← lastIgnored_cleared a, same, lastIgnored_cleared]
    have third : ThirdIgnored a ↔ ThirdIgnored b := by
      rw [← thirdIgnored_cleared a, same, thirdIgnored_cleared]
    by_cases lastA : LastIgnored a
    · rw [cleared_of_lastIgnored lastA, cleared_of_lastIgnored (last.1 lastA)] at same
      have rest : a / 16 = b / 16 := by
        simp [← UInt16.toNat_inj] at same ⊢
        omega
      exact .inr (.inl ⟨lastA, last.1 lastA, rest⟩)
    · by_cases thirdA : ThirdIgnored a
      · rw [cleared_of_thirdIgnored thirdA, cleared_of_thirdIgnored (third.1 thirdA)] at same
        have rest : a / 256 = b / 256 ∧ a % 16 = b % 16 := by
          simp [← UInt16.toNat_inj] at same ⊢
          omega
        exact .inr (.inr ⟨thirdA, third.1 thirdA, rest⟩)
      · rw [cleared_of_not_ignored lastA thirdA,
          cleared_of_not_ignored (mt last.2 lastA) (mt third.2 thirdA)] at same
        exact .inl same
  · rintro (rfl | ⟨lastA, lastB, rest⟩ | ⟨thirdA, thirdB, high, low⟩)
    · rfl
    · rw [cleared_of_lastIgnored lastA, cleared_of_lastIgnored lastB, rest]
    · rw [cleared_of_thirdIgnored thirdA, cleared_of_thirdIgnored thirdB, high, low]

/-! ### A word put together again

`kind` says of the fixed bits of a pattern that they are those of the word. -/

section

variable (word : UInt16) {bits : UInt16}

theorem address_fields (kind : bits.toNat = 4096 * (Fields.of word).kind.toNat) :
    bits + (Fields.of word).nnn = word := by
  have bound := word.toNat_lt
  rw [Fields.kind_toNat] at kind
  simp [← UInt16.toNat_inj, kind]
  omega

theorem packByte_fields (kind : bits.toNat = 4096 * (Fields.of word).kind.toNat) :
    packByte bits (Fields.of word).x (Fields.of word).kk = word := by
  have bound := word.toNat_lt
  rw [Fields.kind_toNat] at kind
  simp [packByte, ← UInt16.toNat_inj, kind]
  omega

theorem packRegs_fields
    (kind : bits.toNat = 4096 * (Fields.of word).kind.toNat + (Fields.of word).n.toNat) :
    packRegs bits (Fields.of word).x (Fields.of word).y = word := by
  have bound := word.toNat_lt
  rw [Fields.kind_toNat, Fields.n_toNat] at kind
  simp [packRegs, ← UInt16.toNat_inj, kind]
  omega

/-- Without its last nibble. -/
theorem packRegs_fields_zero (kind : bits.toNat = 4096 * (Fields.of word).kind.toNat) :
    packRegs bits (Fields.of word).x (Fields.of word).y = word / 16 * 16 := by
  have bound := word.toNat_lt
  rw [Fields.kind_toNat] at kind
  simp [packRegs, ← UInt16.toNat_inj, kind]
  omega

/-- Without its third nibble. -/
theorem packByte_fields_last (kind : bits.toNat = 4096 * (Fields.of word).kind.toNat) :
    packByte bits (Fields.of word).x (Fields.of word).n = word / 256 * 256 + word % 16 := by
  have bound := word.toNat_lt
  rw [Fields.kind_toNat] at kind
  simp [packByte, ← UInt16.toNat_inj, kind]
  omega

end

/-- **Encoding what a word decodes to** clears the nibble that decoding ignores. -/
theorem encode_decode (word : UInt16) : (decode word).encode = cleared word := by
  have spelled := Instruction.spelledBy_decode word
  generalize decode word = i at spelled ⊢
  cases i with
  | clear | ret =>
      cases spelled
      rfl
  | unknown w =>
      obtain ⟨rfl, unassigned⟩ := spelled
      exact (cleared_of_unassigned unassigned).symm
  | jump _ | call _ | loadIndex _ | jumpOffset _ =>
      obtain ⟨kind, rfl⟩ := spelled
      rw [cleared_of_kind kind (by decide)]
      exact address_fields word (by rw [kind]; rfl)
  | skipEqByte _ _ | skipNeByte _ _ | loadByte _ _ | addByte _ _ | random _ _ =>
      obtain ⟨kind, rfl, rfl⟩ := spelled
      rw [cleared_of_kind kind (by decide)]
      exact packByte_fields word (by rw [kind]; rfl)
  | skipEqReg _ _ =>
      obtain ⟨kind, rfl, rfl⟩ := spelled
      rw [cleared_of_lastIgnored (.inl kind)]
      exact packRegs_fields_zero word (by rw [kind]; rfl)
  | skipNeReg _ _ =>
      obtain ⟨kind, rfl, rfl⟩ := spelled
      rw [cleared_of_lastIgnored (.inr kind)]
      exact packRegs_fields_zero word (by rw [kind]; rfl)
  | copy _ _ | or _ _ | and _ _ | xor _ _ | add _ _ | sub _ _ | subFrom _ _ =>
      obtain ⟨kind, last, rfl, rfl⟩ := spelled
      rw [cleared_of_n kind last (by decide)]
      exact packRegs_fields word (by rw [kind, last]; rfl)
  | shiftRight _ =>
      obtain ⟨kind, last, rfl⟩ := spelled
      rw [cleared_of_thirdIgnored ⟨kind, .inl last⟩, Instruction.encode, ← last]
      exact packByte_fields_last word (by rw [kind]; rfl)
  | shiftLeft _ =>
      obtain ⟨kind, last, rfl⟩ := spelled
      rw [cleared_of_thirdIgnored ⟨kind, .inr last⟩, Instruction.encode, ← last]
      exact packByte_fields_last word (by rw [kind]; rfl)
  | draw _ _ _ =>
      obtain ⟨kind, rfl, rfl, rfl⟩ := spelled
      rw [cleared_of_kind kind (by decide)]
      refine packRegs_fields word ?_
      simp [kind]
      omega
  | _ =>
      obtain ⟨kind, low, rfl⟩ := spelled
      rw [cleared_of_kind kind (by decide), Instruction.encode, ← low]
      exact packByte_fields word (by rw [kind]; rfl)

/-! ## What decoding identifies -/

theorem decode_cleared (word : UInt16) : decode (cleared word) = decode word := by
  rw [← encode_decode]
  refine Instruction.decode_encode (inRange_decode word) ?_
  intro w same
  obtain ⟨rfl, unassigned⟩ := Instruction.decode_eq_iff.1 same
  exact unassigned

/-- **What decoding identifies, and what it reaches.**  Two words decode to the same instruction
exactly if they are the same, or differ in nothing but the last nibble of 5xyn or of 9xyn, or the
third of 8xy6 or of 8xyE.  Every operand is in range; every operation with operands in range is
decoded from its opcode; and a word is decoded to `unknown` of itself exactly if it matches none
of the patterns. -/
theorem decode_kernel_range :
    (∀ a b : UInt16, decode a = decode b ↔
      a = b ∨ (LastIgnored a ∧ LastIgnored b ∧ a / 16 = b / 16) ∨
        (ThirdIgnored a ∧ ThirdIgnored b ∧ a / 256 = b / 256 ∧ a % 16 = b % 16)) ∧
      (∀ word, (decode word).InRange) ∧
      (∀ i : Instruction, i.InRange → (∀ w, i ≠ .unknown w) → decode i.encode = i) ∧
      ∀ word w, decode word = .unknown w ↔ word = w ∧ ∀ p ∈ patterns, ¬ p.Matches w := by
  refine ⟨fun a b => ?_, inRange_decode, fun i range operation => ?_, fun word w => ?_⟩
  · rw [← cleared_eq_iff, ← encode_decode, ← encode_decode]
    refine ⟨congrArg _, fun same => ?_⟩
    rw [encode_decode, encode_decode] at same
    rw [← decode_cleared a, same, decode_cleared]
  · exact Instruction.decode_encode range fun w same => (operation w same).elim
  · rw [Instruction.decode_eq_iff, ← unassigned_iff]
    constructor
    · rintro ⟨rfl, unassigned⟩
      exact ⟨rfl, unassigned⟩
    · rintro ⟨rfl, unassigned⟩
      exact ⟨rfl, unassigned⟩

/-- The last nibble of 5xyn and the third of 8xy6 make no difference. -/
example : decode 0x5127 = decode 0x5120 ∧ decode 0x8A36 = decode 0x8AF6 := by decide

end Chip8
