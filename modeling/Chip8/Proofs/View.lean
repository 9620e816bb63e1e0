/-
# Chip8.Proofs.View -- what an instruction looks at

Registers, index, counter, stack and memory are the core of a machine: any instruction may
look at them.  The timers, the screen, the keypad, the random stream and the configuration lie
around it, and of these an instruction looks at one or at none: `readDelay` at the delay timer,
`random` at the stream, three instructions at the keypad, a wait for a key also at what to do
without one, a transfer of registers at whether it includes the last, and `draw` at the screen,
but only for whether it turns a cell off.  None looks at the sound timer.

* `SameView i m n`: the instruction `i` finds the same on two machines;
* `effect_of_sameView`: then it does the same to the core of both, and to what lies around each
  what the rules of `effect_parts` say;
* `step_of_sameView`: and a step at it answers and reports the same.
-/
import Chip8.Proofs.Lockstep

namespace Chip8

set_option autoImplicit false

/-! ## Views -/

/-- The same registers, index, counter, stack and memory. -/
structure Machine.SameCore (m n : Machine) : Prop where
  v : m.v = n.v
  index : m.index = n.index
  pc : m.pc = n.pc
  stack : m.stack = n.stack
  memory : m.memory = n.memory

namespace Instruction

/-- Opcodes Ex9E, ExA1 and Fx0A. -/
def asksKeypad : Instruction → Bool
  | skipHeld _ | skipNotHeld _ | waitKey _ => true
  | _ => false

/-- Opcodes Fx55 and Fx65. -/
def isTransfer : Instruction → Bool
  | storeRegs _ | loadRegs _ => true
  | _ => false

/-- The instruction finds the same on two machines: the core, and whatever else it looks at. -/
structure SameView (i : Instruction) (m n : Machine) : Prop where
  core : m.SameCore n
  delay : ∀ x, i = readDelay x → m.delay = n.delay := by intros; rfl
  random : ∀ x mask, i = random x mask → m.random = n.random := by intros; rfl
  hit : ∀ x y rows, i = draw x y rows →
    (m.screen.flip (m.covered x y rows)).2 = (n.screen.flip (m.covered x y rows)).2 := by
      intros; rfl
  keypad : i.asksKeypad → m.keypad = n.keypad := by intros; rfl
  keyWait : ∀ x, i = waitKey x → m.keypad.first? = none →
    m.config.keyWait = n.config.keyWait := by intros; rfl
  inclusive : i.isTransfer → m.config.inclusive = n.config.inclusive := by intros; rfl

end Instruction

namespace Machine

variable {m n : Machine} {i : Instruction}

/-! ## Effects -/

theorem transferCount_congr {c d : Config} (same : c.inclusive = d.inclusive) (x : UInt8) :
    c.transferCount x = d.transferCount x := by
  simp only [Config.transferCount, same]

/-- **An instruction that finds the same does the same**, but for what lies around the core. -/
theorem effect_of_sameView (same : i.SameView m n) :
    n.effect i =
      { m.effect i with
        delay := n.delayAfter i
        sound := n.soundAfter i
        screen := n.screenAfter i
        keypad := n.keypad
        random := n.randomAfter i
        config := n.config } := by
  obtain ⟨core, delaySame, randomSame, hit, keypadSame, keyWait, inclusive⟩ := same
  obtain ⟨v, index, pc, stack, delay, sound, memory, screen, keypad, random, config⟩ := n
  obtain ⟨rfl, rfl, rfl, rfl, rfl⟩ := core
  cases i with
  | skipEqByte _ _ | skipNeByte _ _ | skipEqReg _ _ | skipNeReg _ _ =>
      simp only [effect, skipIf_eq]
      rfl
  | skipHeld x | skipNotHeld x =>
      obtain rfl := keypadSame rfl
      simp only [effect, skipIf_eq]
      rfl
  | waitKey x =>
      obtain rfl := keypadSame rfl
      cases found : m.keypad.first? with
      | some key =>
          simp only [effect, found]
          rfl
      | none =>
          have wait : m.config.keyWait = config.keyWait := keyWait x rfl found
          simp only [effect, found, ← wait]
          cases m.config.keyWait <;> rfl
  | readDelay x =>
      obtain rfl := delaySame x rfl
      rfl
  | random x mask =>
      obtain rfl := randomSame x mask rfl
      rfl
  | draw x y rows =>
      have flag := hit x y rows rfl
      simp only [effect, setFlag, flag]
      rfl
  | storeRegs x | loadRegs x =>
      have count := transferCount_congr (inclusive rfl) x
      simp only [effect, count]
      rfl
  | _ => rfl

/-! ## Steps -/

theorem next_of_sameCore (core : m.SameCore n) : m.next = n.next := by
  obtain ⟨-, -, pc, -, memory⟩ := core
  simp only [next, fetch, here, pc, memory]

/-- Moving past an instruction does not change what it finds. -/
theorem sameView_passed (same : i.SameView m n) : i.SameView m.passed n.passed := by
  obtain ⟨⟨v, index, pc, stack, memory⟩, delay, random, hit, keypad, keyWait, inclusive⟩ := same
  have passed : m.passed.pc = n.passed.pc := by simp only [Machine.passed, here, pc]
  exact ⟨⟨v, index, passed, stack, memory⟩, delay, random, hit, keypad, keyWait, inclusive⟩

theorem notes_of_sameView (same : i.SameView m n) : m.notes i = n.notes i := by
  have pc := same.core.pc
  cases i with
  | unknown word => simp only [notes, pc]
  | waitKey x =>
      have keypad := same.keypad rfl
      cases found : m.keypad.first? with
      | some key => simp only [notes, ← keypad, found]
      | none =>
          have wait := same.keyWait x rfl found
          simp only [notes, ← keypad, found, ← wait]
  | _ => rfl

/-- **Two machines on which the next instruction finds the same** answer and report the same
when they step, and how they are related afterwards is a matter of what lies around the core. -/
theorem step_of_sameView {R : Machine → Machine → Prop} (same : m.next.SameView m n)
    (failed : R m.stalled { n with stack := m.stalled.stack, pc := m.here })
    (ran : R (m.passed.effect m.next)
      { m.passed.effect m.next with
        delay := n.passed.delayAfter m.next
        sound := n.passed.soundAfter m.next
        screen := n.passed.screenAfter m.next
        keypad := n.keypad
        random := n.passed.randomAfter m.next
        config := n.config }) : m.step.Rel R n.step := by
  have nextSame := next_of_sameCore same.core
  have passed := sameView_passed same
  have faults : m.passed.fault? m.next = n.passed.fault? n.next := by
    rw [← nextSame]
    exact fault?_congr passed.core.pc (congrArg _ passed.core.stack) m.next
  have logs : m.stepLog = n.stepLog := by
    have pc := same.core.pc
    have memory := same.core.memory
    simp only [stepLog, ← nextSame, ← notes_of_sameView passed, fetch, here, pc, memory]
  have stalled : n.stalled = { n with stack := m.stalled.stack, pc := m.here } := by
    have pc := same.core.pc
    have stack := same.core.stack
    simp only [Machine.stalled, stackLeft, ← nextSame, here, pc, stack]
  refine step_rel faults logs (stalled ▸ failed) fun _ => ?_
  rw [← nextSame, effect_of_sameView passed]
  exact ran

end Machine

end Chip8
