/-
# Chip8.Proofs.Counter -- where the counter goes

The counter is written in many places: the step moves it past the opcode before anything is
executed, skips move it once more, jumps, calls and returns replace it, and a wait for a key moves
it back.  Each place masks its own sum.  All of it is one rule on numbers.

* `successor?`: the next counter as the instruction, read at a machine, gives it;
* `effect_counter`: what an instruction makes of the counter that has been moved past it;
* `word_toNat`: the opcode, from its two bytes;
* `step_counter`: the rule, for every step that succeeds.
-/
import Chip8.Proofs.Alike
import Chip8.Proofs.CallDiscipline
import Chip8.Proofs.Frame
import Chip8.Proofs.KeyWait

namespace Chip8

set_option autoImplicit false

theorem Memory.word_toNat (memory : Memory) (a : Nat) :
    (memory.word a).toNat =
      256 * (memory.read a).toNat + (memory.read ((a + 1) % 4096)).toNat := by
  have wrapped : memory.read ((a + 1) % 4096) = memory.read (a + 1) :=
    memory.read_congr (Nat.mod_mod _ _)
  have high := (memory.read a).toNat_lt
  have low := (memory.read (a + 1)).toNat_lt
  simp only [word, wrapped, UInt16.toNat_add, UInt16.toNat_mul, UInt8.toNat_toUInt16,
    UInt16.reduceToNat]
  omega

theorem Keypad.isHeld_mod (k : Keypad) (key : UInt8) : k.isHeld (key % 16) = k.isHeld key := by
  have slot : keySlot (key % 16) = keySlot key := by
    simp [keySlot]
  rw [isHeld, isHeld, slot]

namespace Machine

variable {m : Machine} {i : Instruction}

/-- The counter two bytes further, or four if the next instruction is passed over; both go around
the end of memory. -/
def onward (m : Machine) (passes : Prop) [Decidable passes] : Nat :=
  (m.pc.toNat + if passes then 4 else 2) % 4096

/-- The counter after an instruction of which the counter of `m` is the address; a return with no
call to return from has none. -/
def successor? (m : Machine) : Instruction → Option Nat
  | .jump a | .call a => some a.toNat
  | .ret => m.stack.live.getLast?.map UInt16.toNat
  | .jumpOffset a => some ((a.toNat + (m.val 0).toNat) % 4096)
  | .skipEqByte x k => some (m.onward (m.val x = k))
  | .skipNeByte x k => some (m.onward (m.val x ≠ k))
  | .skipEqReg x y => some (m.onward (m.val x = m.val y))
  | .skipNeReg x y => some (m.onward (m.val x ≠ m.val y))
  | .skipHeld x => some (m.onward (m.keypad.isHeld (m.val x % 16) = true))
  | .skipNotHeld x => some (m.onward (m.keypad.isHeld (m.val x % 16) = false))
  | .waitKey _ =>
      some (if m.config.keyWait = .block ∧ m.keypad.NoneHeld then m.pc.toNat else m.onward False)
  | _ => some (m.onward False)

/-! ## The counter after an effect -/

theorem passed_counter (m : Machine) : m.passed.pc.toNat = m.onward False := by
  show ((m.pc % 4096 + 2) % 4096).toNat = (m.pc.toNat + 2) % 4096
  simp only [UInt16.toNat_mod, UInt16.toNat_add, UInt16.reduceToNat]
  omega

theorem skipIf_counter (m : Machine) {passes : Prop} [Decidable passes] {c : Bool}
    (same : c = true ↔ passes) : (m.passed.skipIf c).pc.toNat = m.onward passes := by
  have passed := m.passed_counter
  rw [skipIf_eq]
  unfold onward at passed ⊢
  by_cases skips : passes
  · simp only [same.2 skips, skips, if_true, if_false, UInt16.toNat_mod, UInt16.toNat_add,
      UInt16.reduceToNat] at passed ⊢
    omega
  · simp only [Bool.eq_false_iff.2 (mt same.1 skips), skips, if_false] at passed ⊢
    exact passed

theorem wait_counter (wf : m.WellFormed) (x : UInt8) :
    (m.passed.effect (.waitKey x)).pc =
      if m.config.keyWait = .block ∧ m.keypad.NoneHeld then m.pc else m.passed.pc := by
  -- The wait goes back from where the step has already moved the counter.
  have back : (m.passed.pc - 2) % 4096 = m.pc := by
    rw [passed, wf.here_eq]
    exact rewind wf.pc_lt
  have keypad : m.passed.keypad = m.keypad := rfl
  have config : m.passed.config = m.config := rfl
  have look := m.keypad.first?_eq_none_iff
  rw [effect, keypad, config]
  cases found : m.keypad.first? with
  | some key =>
      have held : ¬ m.keypad.NoneHeld := by simp [← look, found]
      exact (if_neg fun waits => held waits.2).symm
  | none =>
      have free : m.keypad.NoneHeld := look.1 found
      cases m.config.keyWait <;> simp [free, back]

/-- **What an instruction makes of the counter** that has been moved past it. -/
theorem effect_counter (wf : m.WellFormed) (runs : m.passed.refusal i = none) :
    m.successor? i = some (m.passed.effect i).pc.toNat := by
  cases i with
  | jump a | call a => rfl
  | ret =>
      have nonempty : m.stack.depth ≠ 0 := depth_ne_zero_of_ret (m := m.passed) runs
      show m.stack.live.getLast?.map UInt16.toNat = some m.stack.top.toNat
      rw [CallStack.live_popped wf.stack.depth_le nonempty, List.getLast?_concat]
      rfl
  | jumpOffset a =>
      -- The sum wraps at 65536 before it is masked, which is a multiple of 4096.
      have sum : (UInt16.ofNat (a.toNat + (m.val 0).toNat) % 4096).toNat =
          (a.toNat + (m.val 0).toNat) % 4096 := by
        simp only [UInt16.toNat_mod, UInt16.toNat_ofNat', UInt16.reduceToNat]
        omega
      exact congrArg some sum.symm
  | skipEqByte x k | skipEqReg x y =>
      exact congrArg some (m.skipIf_counter beq_iff_eq).symm
  | skipNeByte x k | skipNeReg x y =>
      exact congrArg some (m.skipIf_counter bne_iff_ne).symm
  | skipHeld x =>
      have same : m.keypad.isHeld (m.val x) = true ↔ m.keypad.isHeld (m.val x % 16) = true := by
        rw [Keypad.isHeld_mod]
      exact congrArg some (m.skipIf_counter same).symm
  | skipNotHeld x =>
      have same : (!m.keypad.isHeld (m.val x)) = true ↔
          m.keypad.isHeld (m.val x % 16) = false := by
        rw [Keypad.isHeld_mod, Bool.not_eq_true']
      exact congrArg some (m.skipIf_counter same).symm
  | waitKey x =>
      show some _ = some (m.passed.effect (.waitKey x)).pc.toNat
      rw [wait_counter wf, ← passed_counter, apply_ite UInt16.toNat]
  | _ => exact congrArg some m.passed_counter.symm

/-- **Where the counter goes.**  For every step that succeeds on a machine a host can come to:
the word at the counter, its first byte the high one and its second where the address after the
counter wraps to, spells one instruction, and the next counter is what that instruction gives. -/
theorem step_counter (reachable : m.Reachable) (ok : m.step.result = .ok ()) :
    ∃ word : UInt16,
      word.toNat = 256 * (m.memory.read m.pc.toNat).toNat +
          (m.memory.read ((m.pc.toNat + 1) % 4096)).toNat ∧
        ∃ i : Instruction, i.SpelledBy word ∧ (∀ j : Instruction, j.SpelledBy word → j = i) ∧
          m.successor? i = some m.step.machine.pc.toNat := by
  have wf := reachable.wellFormed
  have runs : m.passed.refusal m.next = none := (step_ok_iff_runs wf.stack.depth_le).1 ok
  refine ⟨_, m.memory.word_toNat _, m.next, m.spelledBy_next, ?_, ?_⟩
  · intro j spelled
    exact (next_of_spelled spelled).symm
  · rw [step_of_runs wf.stack.depth_le runs]
    exact effect_counter wf runs

/-- A machine that has put the byte `40` in the last cell of memory and jumped there.  The opcode
goes around the end of memory: its second byte is the first one of the font. -/
def seamSkip : Machine :=
  (boot {} 0 (some [0x60, 0x40, 0xAF, 0xFF, 0xF1, 0x55, 0x1F, 0xFF])).machine.after
    [.step, .step, .step, .step]

/-- Its opcode compares `V0` with the byte `F0`, and the skip goes around the end of memory. -/
theorem seamSkip_passes_over :
    seamSkip.Reachable ∧ seamSkip.step.result = .ok () ∧ seamSkip.pc.toNat = 0xFFF ∧
      seamSkip.step.machine.pc.toNat = 0x003 := by
  have reachable : seamSkip.Reachable :=
    ⟨{}, 0, some [0x60, 0x40, 0xAF, 0xFF, 0xF1, 0x55, 0x1F, 0xFF], [.step, .step, .step, .step],
      rfl⟩
  have fetched : seamSkip.memory.word seamSkip.pc.toNat = 0x40F0 := by decide +kernel
  have ok : seamSkip.step.result = .ok () := by
    have spelled : seamSkip.next = .skipNeByte 0 0xF0 :=
      next_of_spelled (Instruction.decode_eq_iff.1 (by rw [fetched]; rfl))
    rw [step_of_spelled reachable.wellFormed spelled rfl]
  have counter : seamSkip.pc.toNat = 0xFFF := by decide +kernel
  refine ⟨reachable, ok, counter, ?_⟩
  obtain ⟨word, bytes, i, -, only, goes⟩ := step_counter reachable ok
  have isWord : word = 0x40F0 := by
    rw [← Memory.word_toNat, fetched] at bytes
    exact UInt16.toNat.inj bytes
  have isSkip : Instruction.skipNeByte 0 0xF0 = i :=
    only _ (by rw [isWord]; exact Instruction.decode_eq_iff.1 rfl)
  have unequal : seamSkip.val 0 ≠ 0xF0 := by decide +kernel
  rw [← isSkip] at goes
  have sum : seamSkip.onward (seamSkip.val 0 ≠ 0xF0) = 0x003 := by
    rw [onward, counter, if_pos unequal]
  exact (Option.some.inj goes).symm.trans sum

end Machine

end Chip8
