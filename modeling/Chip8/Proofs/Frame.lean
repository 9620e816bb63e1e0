/-
# Chip8.Proofs.Frame -- what a step leaves alone

A step executes its instruction or is refused, and then it did nothing.  An executed
instruction changes the counter and little else, and what else is a matter of the
instruction alone:

* `step_cases`: the two outcomes of a step; `Moment.executed?` tells them apart;
* `Yields i P`: executed by itself or as the next step, `i` leaves a machine of which `P` holds;
* `Frame i m n`: from `m` to `n` nothing has changed but the counter and what the
  instruction `i` is there to change, component by component and register by register;
* `effect_frame`: the effect of an instruction is inside its frame;
* `step_within_frame`: so is every step of a machine a host can come to, with the
  instruction read off the opcode at the counter.
-/
import Chip8.Proofs.Failure

namespace Chip8

set_option autoImplicit false

/-! ## The outcome of a step -/

/-- The instruction that was executed: the moment was a step, and it was not refused. -/
def Moment.executed? (k : Moment) : Option Instruction :=
  match k.call, k.machine.step.result with
  | .step, .ok () => some k.machine.next
  | _, _ => none

namespace Machine

variable {m : Machine}

/-- **What a step does.**  It executes its instruction, or it does nothing. -/
theorem step_cases (wf : m.WellFormed) :
    (Moment.executed? ⟨m, .step⟩ = some m.next ∧ m.step.machine = m.passed.effect m.next) ∨
      (Moment.executed? ⟨m, .step⟩ = none ∧ m.step.machine = m) := by
  cases refused : m.passed.refusal m.next with
  | none =>
      left
      simp only [Moment.executed?, step_of_runs wf.stack.depth_le refused, and_self]
  | some fault =>
      have failed := (step_error_iff_refusal wf.stack.depth_le).2 refused
      right
      exact ⟨by simp only [Moment.executed?, failed], step_error_machine wf failed⟩

theorem next_of_spelled {i : Instruction} (spelled : i.SpelledBy (m.memory.word m.pc.toNat)) :
    m.next = i := by
  rw [next, fetch_eq]
  exact Instruction.decode_eq_iff.2 spelled

theorem spelledBy_next (m : Machine) : m.next.SpelledBy (m.memory.word m.pc.toNat) := by
  rw [← fetch_eq]
  exact Instruction.spelledBy_decode m.fetch

/-- The instruction succeeds and leaves a machine of which `P` holds, whether it is executed by
itself or as the next step. -/
structure Yields (m : Machine) (i : Instruction) (P : Machine → Prop) : Prop where
  executed : ∃ n, m.execute i = .ok () n ∧ P n
  stepped : i.SpelledBy (m.memory.word m.pc.toNat) → m.step.result = .ok () ∧ P m.step.machine

/-- For an instruction that is never refused it is enough to look at its effect, wherever the
counter stands. -/
theorem yields_of_effect (wf : m.WellFormed) {i : Instruction} {P : Machine → Prop}
    (range : i.InRange) (runs : ∀ n : Machine, n.refusal i = none)
    (leaves : ∀ pc, P ({ m with pc }.effect i)) : m.Yields i P where
  executed := by
    refine ⟨m.effect i, ?_, leaves m.pc⟩
    rw [m.execute_eq (fun _ => wf.stack.depth_le) range, outcome, runs]
  stepped spelled := by
    rw [step_of_spelled wf (next_of_spelled spelled) (runs _)]
    exact ⟨rfl, leaves _⟩

/-- On a machine that need not be well formed, neither its checks nor where its counter stands
make a difference to such an instruction. -/
theorem yields_of_unrefused {i : Instruction} {P : Machine → Prop} (range : i.InRange)
    (runs : ∀ n : Machine, n.refusal i = none) (leaves : ∀ pc, P ({ m with pc }.effect i)) :
    m.Yields i P where
  executed := by
    refine ⟨m.effect i, ?_, leaves m.pc⟩
    rw [m.execute_total range, fault?_of_unrefused runs]
  stepped spelled := by
    rw [step_total, next_of_spelled spelled, fault?_of_unrefused runs]
    exact ⟨rfl, leaves _⟩

end Machine

/-- An instruction that was executed was next at a step, and had its effect. -/
theorem Moment.of_executed? {k : Moment} {i : Instruction} (executed : k.executed? = some i) :
    k.call = .step ∧ k.machine.next = i ∧ k.after = k.machine.passed.effect i := by
  obtain ⟨m, op⟩ := k
  unfold Moment.executed? at executed
  split at executed
  · rename_i step ran
    obtain rfl : op = .step := step
    obtain rfl : m.next = i := Option.some.inj executed
    refine ⟨rfl, rfl, ?_⟩
    show m.step.machine = m.passed.effect m.next
    rw [m.step_total] at ran ⊢
    split at ran
    · cases ran
    · rfl
  · cases executed

/-! ## Frames -/

/-- What an instruction may change besides registers and the counter. -/
inductive Part
  | index
  | stack
  | delay
  | sound
  | memory
  | screen
  | random
  deriving DecidableEq, Repr

namespace Instruction

/-- The instructions that may change a part. -/
def Touches : Part → Instruction → Prop
  | .index, .loadIndex _ | .index, .addIndex _ | .index, .loadGlyph _ | .index, .storeRegs _
  | .index, .loadRegs _ => True
  | .stack, .call _ | .stack, .ret => True
  | .delay, .setDelay _ => True
  | .sound, .setSound _ => True
  | .memory, .storeDecimal _ | .memory, .storeRegs _ => True
  | .screen, .clear | .screen, .draw .. => True
  | .random, .random .. => True
  | _, _ => False

/-- The registers that an instruction may write. -/
def MayWrite (c : Config) (j : Fin 16) : Instruction → Prop
  | .loadByte x _ | .addByte x _ | .copy x _ | .or x _ | .and x _ | .xor x _ | .random x _
  | .readDelay x | .waitKey x => j = slotOf x.toNat
  | .add x _ | .sub x _ | .shiftRight x | .subFrom x _ | .shiftLeft x =>
      j = slotOf x.toNat ∨ j = Machine.flagReg
  | .draw .. => j = Machine.flagReg
  | .loadRegs x => j.val < c.transferCount x
  | _ => False

end Instruction

namespace Machine

/-- Two machines hold the same in a part. -/
def Agree (m n : Machine) : Part → Prop
  | .index => m.index = n.index
  | .stack => m.stack = n.stack
  | .delay => m.delay = n.delay
  | .sound => m.sound = n.sound
  | .memory => m.memory = n.memory
  | .screen => m.screen = n.screen
  | .random => m.random = n.random

end Machine

/-- From `m` to `n` nothing has changed but the counter and what the instruction is there
to change. -/
structure Frame (i : Instruction) (m n : Machine) : Prop where
  keypad : n.keypad = m.keypad
  config : n.config = m.config
  part : ∀ p, ¬ i.Touches p → n.Agree m p
  register : ∀ j, ¬ i.MayWrite m.config j → Table.get n.v j = Table.get m.v j
  unassigned : ∀ word, i = .unknown word → n = { m with pc := n.pc }

/-- Doing nothing is inside every frame. -/
theorem Frame.refl (i : Instruction) (m : Machine) : Frame i m m where
  keypad := rfl
  config := rfl
  part p _ := by cases p <;> rfl
  register _ _ := rfl
  unassigned _ _ := rfl

/-- Numbers below sixteen name different registers. -/
theorem slotOf_inj {x y : UInt8} (hx : x < 16) (hy : y < 16)
    (same : slotOf x.toNat = slotOf y.toNat) : x = y := by
  have lowX : x.toNat < 16 := hx
  have lowY : y.toNat < 16 := hy
  have equal : x.toNat % 16 = y.toNat % 16 := congrArg Fin.val same
  rw [Nat.mod_eq_of_lt lowX, Nat.mod_eq_of_lt lowY] at equal
  exact UInt8.toNat.inj equal

namespace Machine

variable {m : Machine} {i : Instruction}

/-! ## Effects -/

theorem get_put (x b : UInt8) (j : Fin 16) :
    Table.get (m.put x b).v j = if slotOf x.toNat = j then b else Table.get m.v j :=
  Table.get_set _ _ _ _

theorem get_setFlag (flag : Bool) (j : Fin 16) :
    Table.get (m.setFlag flag).v j = if flagReg = j then flag.toUInt8 else Table.get m.v j :=
  Table.get_set _ _ _ _

theorem val_put {x : UInt8} (inside : x < 16) (b : UInt8) {j : UInt8} (named : j < 16) :
    (m.put x b).val j = if x = j then b else m.val j := by
  rw [val, get_put]
  by_cases same : x = j
  · rw [if_pos same, if_pos (congrArg (slotOf ·.toNat) same)]
  · rw [if_neg same, if_neg (mt (slotOf_inj inside named) same)]
    rfl

theorem val_setFlag (flag : Bool) {j : UInt8} (named : j < 16) :
    (m.setFlag flag).val j = if j = 15 then flag.toUInt8 else m.val j := by
  rw [val, get_setFlag]
  by_cases same : j = 15
  · subst same
    rfl
  · have apart : flagReg ≠ slotOf j.toNat := fun equal =>
      same (slotOf_inj named (by decide) equal.symm)
    rw [if_neg same, if_neg apart]
    rfl

/-- An effect keeps every register that its instruction may not write. -/
theorem effect_register {j : Fin 16} (other : ¬ i.MayWrite m.config j) :
    Table.get (m.effect i).v j = Table.get m.v j := by
  cases i with
  | loadByte x _ | addByte x _ | copy x _ | or x _ | and x _ | xor x _ | random x _
  | readDelay x =>
      rw [effect, get_put, if_neg (Ne.symm other)]
  | waitKey x =>
      obtain ⟨v, pc, same, kept⟩ := m.effect_waitKey x
      rw [same]
      exact kept j (Ne.symm other)
  | add x _ | sub x _ | shiftRight x | subFrom x _ | shiftLeft x =>
      obtain ⟨result, flag⟩ := not_or.1 other
      rw [effect, get_put, if_neg (Ne.symm result), get_setFlag, if_neg (Ne.symm flag)]
  | draw x y rows => rw [effect, get_setFlag, if_neg (Ne.symm other)]
  | storeRegs x => rfl
  | loadRegs x =>
      simp only [effect, restored, loaded, Table.get_ofFn]
      exact if_neg other
  | _ => simp only [effect, skipIf_eq]

/-- An effect keeps every part that its instruction does not touch. -/
theorem effect_agree {p : Part} (untouched : ¬ i.Touches p) : (m.effect i).Agree m p := by
  rw [effect_parts]
  cases p with
  | index =>
      cases i with
      | loadIndex _ | addIndex _ | loadGlyph _ | storeRegs _ | loadRegs _ =>
          exact (untouched trivial).elim
      | _ => rfl
  | stack =>
      cases i with
      | call _ | ret => exact (untouched trivial).elim
      | _ => rfl
  | delay =>
      cases i with
      | setDelay _ => exact (untouched trivial).elim
      | _ => rfl
  | sound =>
      cases i with
      | setSound _ => exact (untouched trivial).elim
      | _ => rfl
  | memory =>
      cases i with
      | storeDecimal _ | storeRegs _ => exact (untouched trivial).elim
      | _ => rfl
  | screen =>
      cases i with
      | clear | draw _ _ _ => exact (untouched trivial).elim
      | _ => rfl
  | random =>
      cases i with
      | random _ _ => exact (untouched trivial).elim
      | _ => rfl

/-- **The effect of an instruction is inside its frame.** -/
theorem effect_frame (m : Machine) (i : Instruction) : Frame i m (m.effect i) where
  keypad := by rw [effect_parts]
  config := by rw [effect_parts]
  part _ := effect_agree
  register _ := effect_register
  unassigned := by
    rintro word rfl
    rfl

/-! ## Steps -/

/-- Passing over an instruction is no change but of the counter. -/
theorem Frame.of_passed {n : Machine} (frame : Frame i m.passed n) : Frame i m n :=
  { frame with }

theorem step_frame_next (wf : m.WellFormed) : Frame m.next m m.step.machine := by
  rcases step_cases wf with ⟨-, ran⟩ | ⟨-, nothing⟩
  · rw [ran]
    exact Frame.of_passed (effect_frame m.passed m.next)
  · rw [nothing]
    exact .refl m.next m

/-- **A step stays inside the frame of the one instruction that its opcode spells.** -/
theorem step_within_frame (reachable : m.Reachable) :
    ∃ i : Instruction, i.SpelledBy (m.memory.word m.pc.toNat) ∧
      (∀ j : Instruction, j.SpelledBy (m.memory.word m.pc.toNat) → j = i) ∧
      Frame i m m.step.machine := by
  refine ⟨m.next, m.spelledBy_next, fun j other => ?_, step_frame_next reachable.wellFormed⟩
  exact (next_of_spelled other).symm

/-- A machine about to load three registers, its transfers including the last. -/
def threeLoads : Machine := (boot { inclusive := true } 0 (some [0xF2, 0x65])).machine

/-- Its step keeps all registers from the fourth on, and all but the index besides. -/
theorem threeLoads_within_frame :
    threeLoads.Reachable ∧ Frame (.loadRegs 2) threeLoads threeLoads.step.machine := by
  have reachable : threeLoads.Reachable := ⟨{ inclusive := true }, 0, some [0xF2, 0x65], [], rfl⟩
  have spelled : decode (threeLoads.memory.word threeLoads.pc.toNat) = .loadRegs 2 := by
    decide +kernel
  obtain ⟨i, -, only, frame⟩ := step_within_frame reachable
  rw [only _ (Instruction.decode_eq_iff.1 spelled)]
  exact ⟨reachable, frame⟩

/-! ## The configuration -/

/-- No call changes the configuration. -/
theorem atom_config (wf : m.WellFormed) {op : Operation} (atom : op.IsAtom) :
    (m.perform op).machine.config = m.config := by
  cases op with
  | step => exact (step_frame_next wf).config
  | frame n => exact atom.elim
  | tick | listen | press _ _ | reset => rfl
  | load rom => exact m.load_config rom
  | loadFile path content =>
      cases content with
      | none => rfl
      | some rom => exact m.load_config rom

theorem boot_config (config : Config) (drawn : UInt64) (rom : Option (List UInt8)) :
    (boot config drawn rom).machine.config = config := by
  cases rom with
  | none => rfl
  | some rom => exact (start config drawn).load_config rom

end Machine

theorem Trail.config_eq {m k : Machine} {past : List Moment} (trail : Trail m past k)
    (wf : m.WellFormed) : k.config = m.config := by
  induction trail with
  | nil => rfl
  | snoc before op atom ih => rw [Machine.atom_config (before.wellFormed wf) atom, ih]

end Chip8
