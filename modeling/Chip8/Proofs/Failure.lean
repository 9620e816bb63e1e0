/-
# Chip8.Proofs.Failure -- when a call fails, and that a failed call did nothing

Three calls can fail: a step, and the two that load a program.  A frame is a list of
steps, so what it did before the failing one stays; each of the others either succeeds or
leaves the machine as it was.  For a step this is not plain: it moves the counter before it
executes, and on failure puts back the masked counter and nothing else.  The masked counter
is the old one only because a well-formed machine's counter is an address, and the rest is as
it was only because an instruction that is refused has written nothing by then.

* `decode_eq_ret_iff`, `decode_eq_call_iff`: the two opcodes that can fail;
* `step_error_iff`, `load_error_iff`, `loadFile_error_iff`: exactly when, and with what;
* `execute_error_machine`, `Memory.load_error_memory`: what is refused wrote nothing;
* `atom_error_machine`: the machine after a failed call that is not a frame.
-/
import Chip8.Proofs.Spelling
import Chip8.Proofs.WellFormed

namespace Chip8

set_option autoImplicit false

/-! ## The opcodes of returns and calls -/

theorem decode_eq_ret_iff (word : UInt16) : decode word = .ret ↔ word = 0x00EE :=
  Instruction.decode_eq_iff

theorem decode_eq_call_iff (word address : UInt16) :
    decode word = .call address ↔ word / 4096 = 2 ∧ address = word % 4096 := by
  have nibble : (Fields.of word).kind = 2 ↔ word / 4096 = 2 := Fields.kind_eq_iff word 2
  rw [← nibble]
  exact Instruction.decode_eq_iff

/-! ## A load of memory alone -/

/-- A load that is refused has written nothing. -/
theorem Memory.load_error_memory {m left : Memory} {rom : List UInt8} {fault : Fault}
    (failed : (load rom).run m = .error fault left) : left = m := by
  rw [load_run] at failed
  split at failed
  · cases failed
  · cases failed
    rfl

namespace Machine

variable {m : Machine} {fault : Fault}

/-! ## Steps -/

theorem step_error_iff_refusal (fits : m.stack.depth ≤ 16) :
    m.step.result = .error fault ↔ m.passed.refusal m.next = some fault := by
  cases refused : m.passed.refusal m.next with
  | none => simp [step_of_runs fits refused]
  | some other => simp [step_of_refusal fits refused]

theorem step_ok_iff_runs (fits : m.stack.depth ≤ 16) :
    m.step.result = .ok () ↔ m.passed.refusal m.next = none := by
  cases refused : m.passed.refusal m.next with
  | none => simp [step_of_runs fits refused]
  | some fault => simp [step_of_refusal fits refused]

theorem refusal_eq_some_iff {i : Instruction} (fits : m.stack.depth ≤ 16) :
    m.refusal i = some fault ↔
      (i = .ret ∧ m.stack.depth = 0 ∧ fault = .stackUnderflow m.pc) ∨
        ((∃ a, i = .call a) ∧ m.stack.depth = 16 ∧ fault = .stackOverflow m.pc) := by
  cases i with
  | ret => simp [refusal, eq_comm]
  | call a =>
      have full : ¬ m.stack.depth < 16 ↔ m.stack.depth = 16 := by omega
      simp [refusal, ← full, eq_comm]
  | _ => simp [refusal]

/-- **When a step fails.**  At a return with an empty stack and at a call with a full one;
the fault names the address after the instruction. -/
theorem step_error_iff (wf : m.WellFormed) :
    m.step.result = .error fault ↔
      (m.memory.word m.pc.toNat = 0x00EE ∧ m.stack.depth = 0 ∧
          fault = .stackUnderflow ((m.pc + 2) % 4096)) ∨
        (m.memory.word m.pc.toNat / 4096 = 2 ∧ m.stack.depth = 16 ∧
          fault = .stackOverflow ((m.pc + 2) % 4096)) := by
  have calls (word : UInt16) : (∃ a, decode word = .call a) ↔ word / 4096 = 2 := by
    simp [decode_eq_call_iff]
  have here : m.here = m.pc := wf.here_eq
  rw [step_error_iff_refusal wf.stack.depth_le,
    refusal_eq_some_iff (m := m.passed) wf.stack.depth_le]
  simp only [next, decode_eq_ret_iff, calls, fetch, passed, here]

/-! ## Loads -/

theorem load_error_iff {rom : List UInt8} :
    (m.load rom).result = .error fault ↔ 3584 < rom.length ∧ fault = .romTooLarge rom.length := by
  rw [load_eq, maxRomSize]
  by_cases short : rom.length ≤ 3584
  · simp [short, Nat.not_lt.2 short]
  · simp [short, Nat.lt_of_not_le short, eq_comm]

theorem loadFile_error_iff {path : String} {content : Option (List UInt8)} :
    (m.loadFile path content).result = .error fault ↔
      (content = none ∧ fault = .romUnreadable path) ∨
        ∃ rom, content = some rom ∧ 3584 < rom.length ∧ fault = .romTooLarge rom.length := by
  cases content with
  | none => simp [loadFile, eq_comm]
  | some rom => simp [loadFile, load_error_iff]

/-! ## Nothing happened -/

/-- An instruction that is refused has written nothing. -/
theorem execute_error_machine {i : Instruction} {left : Machine} (fits : m.stack.depth ≤ 16)
    (range : i.InRange) (failed : m.execute i = .error fault left) : left = m := by
  rw [m.execute_eq (fun _ => fits) range, outcome] at failed
  split at failed
  · cases failed
    rfl
  · cases failed

/-- A step that fails puts back the counter, in the machine that its instruction left. -/
theorem step_error_left (failed : m.step.result = .error fault) :
    ∃ left, m.passed.execute m.next = .error fault left ∧
      m.step.machine = { left with pc := m.here } := by
  unfold step at failed ⊢
  cases executed : m.passed.execute (decode m.fetch) with
  | ok done after =>
      simp only [executed] at failed
      cases failed
  | error other left =>
      simp only [executed] at failed ⊢
      cases failed
      exact ⟨left, executed, rfl⟩

theorem step_error_machine (wf : m.WellFormed) (failed : m.step.result = .error fault) :
    m.step.machine = m := by
  obtain ⟨left, refused, machine⟩ := step_error_left failed
  have nothing : left = m.passed :=
    execute_error_machine (m := m.passed) wf.stack.depth_le m.next_inRange refused
  calc m.step.machine = { left with pc := m.here } := machine
    _ = { m.passed with pc := m.here } := by rw [nothing]
    _ = { m with pc := m.pc } := by rw [wf.here_eq]; rfl

theorem load_error_machine {rom : List UInt8} (failed : (m.load rom).result = .error fault) :
    (m.load rom).machine = m := by
  unfold load at failed ⊢
  cases outcome : (Memory.load rom).run m.memory with
  | ok done memory =>
      simp only [outcome] at failed
      cases failed
  | error other memory =>
      simp only [Memory.load_error_memory outcome]

/-- **A failed call did nothing**, if it is not a frame. -/
theorem atom_error_machine (wf : m.WellFormed) {op : Operation} (atom : op.IsAtom)
    (failed : (m.perform op).result = .error fault) : (m.perform op).machine = m := by
  cases op with
  | frame n => exact atom.elim
  | step => exact step_error_machine wf (Reply.answered_error_iff.1 failed)
  | load rom => exact load_error_machine (Reply.answered_error_iff.1 failed)
  | loadFile path content =>
      cases content with
      | none => rfl
      | some rom => exact load_error_machine (Reply.answered_error_iff.1 failed)
  | tick | listen | press _ _ | reset => cases failed

/-- **Failures are exact and atomic.**  On a machine a host can come to: a step fails
exactly at a return with an empty stack and at a call with a full one, a load exactly when
the program is too large, a file load also when there is nothing to read; and after a
failed call the machine is the one it was before.  Of that a step restores no more than the
counter: an instruction that is refused, and a load that is, have written nothing. -/
theorem failure_exact (reachable : m.Reachable) :
    (∀ fault, (m.perform .step).result = .error fault ↔
      (m.memory.word m.pc.toNat = 0x00EE ∧ m.stack.depth = 0 ∧
          fault = .stackUnderflow ((m.pc + 2) % 4096)) ∨
        (m.memory.word m.pc.toNat / 4096 = 2 ∧ m.stack.depth = 16 ∧
          fault = .stackOverflow ((m.pc + 2) % 4096))) ∧
      (∀ rom fault, (m.perform (.load rom)).result = .error fault ↔
        3584 < rom.length ∧ fault = .romTooLarge rom.length) ∧
      (∀ path content fault, (m.perform (.loadFile path content)).result = .error fault ↔
        (content = none ∧ fault = .romUnreadable path) ∨
          ∃ rom, content = some rom ∧ 3584 < rom.length ∧ fault = .romTooLarge rom.length) ∧
      (∀ size, (Fault.romTooLarge size).message =
        "ROM is too large (" ++ toString size ++ " bytes), max size is " ++ toString 3584
          ++ " bytes") ∧
      (∀ op fault, op.IsAtom → (m.perform op).result = .error fault →
        (m.perform op).machine = m) ∧
      (∀ fault left, m.passed.execute m.next = .error fault left → left = m.passed) ∧
      ∀ rom fault left, (Memory.load rom).run m.memory = .error fault left → left = m.memory := by
  have wf := reachable.wellFormed
  refine ⟨fun fault => ?_, fun rom fault => ?_, fun path content fault => ?_,
    fun size => rfl, fun op fault atom => atom_error_machine wf atom,
    fun fault left => ?_, fun rom fault left => Memory.load_error_memory⟩
  · exact Reply.answered_error_iff.trans (step_error_iff wf)
  · exact Reply.answered_error_iff.trans load_error_iff
  · exact Reply.answered_error_iff.trans loadFile_error_iff
  · exact execute_error_machine (m := m.passed) wf.stack.depth_le m.next_inRange

/-- A machine about to return from nowhere. -/
def strayReturn : Machine := (boot {} 0 (some [0x00, 0xEE])).machine

/-- Its step is refused with the address after the return, and leaves it as it was. -/
theorem strayReturn_fails :
    strayReturn.Reachable ∧
      (strayReturn.perform .step).result = .error (.stackUnderflow 0x202) ∧
      (strayReturn.perform .step).machine = strayReturn := by
  have reachable : strayReturn.Reachable := ⟨{}, 0, some [0x00, 0xEE], [], rfl⟩
  obtain ⟨steps, -, -, -, nothing, -, -⟩ := failure_exact reachable
  have fetched : strayReturn.memory.word strayReturn.pc.toNat = 0x00EE := by decide +kernel
  have failed : (strayReturn.perform .step).result = .error (.stackUnderflow 0x202) :=
    (steps _).2 (.inl ⟨fetched, rfl, rfl⟩)
  exact ⟨reachable, failed, nothing .step _ trivial failed⟩

end Machine

end Chip8
