/-
# Chip8.Proofs.Unread -- memory that is not read is not seen

A step reads the two bytes of its opcode, and at the index the rows of the sprite it draws or
the bytes of the registers it loads.  These are `reads`; each address counts modulo 4096, so a
window goes around the end of memory.  What the rest of memory holds has no say in the step:

* `SameButMemory`: equal in every component but memory, and `differing`, the addresses at
  which the two memories are not the same;
* `effect_unread`, `step_unread`: where two such machines agree on what is read, one
  instruction and one step keep them so, and no address comes to differ.  A store writes the
  same bytes on both sides, so it can only take addresses out;
* `unread_unseen`: so for whole lists of calls, as long as no step reads where they differ.
-/
import Chip8.Proofs.Alike
import Mathlib.Data.Set.Basic

namespace Chip8

set_option autoImplicit false

/-! ## Two memories -/

namespace Memory

/-- The places of `n` addresses in a row. -/
def places (a n : Nat) : List (Fin 4096) := (List.range n).map fun j => place (a + j)

theorem read_place (m : Memory) (a : Nat) : m.read (place a) = m.read a :=
  m.read_congr (Nat.mod_mod a 4096)

variable {m n : Memory}

theorem read_eq_of_places {a k : Nat} (agree : ∀ p ∈ places a k, m.read p = n.read p) {j : Nat}
    (inside : j < k) : m.read (a + j) = n.read (a + j) := by
  have member : place (a + j) ∈ places a k :=
    List.mem_map_of_mem (List.mem_range.2 inside)
  simpa only [read_place] using agree _ member

theorem word_eq_of_places {a : Nat} (agree : ∀ p ∈ places a 2, m.read p = n.read p) :
    m.word a = n.word a := by
  have high : m.read a = n.read a := read_eq_of_places agree (Nat.zero_lt_two)
  have low : m.read (a + 1) = n.read (a + 1) := read_eq_of_places agree (Nat.one_lt_two)
  rw [word, word, high, low]

theorem block_eq_of_places {a k : Nat} (agree : ∀ p ∈ places a k, m.read p = n.read p) :
    m.block a k = n.block a k :=
  List.map_congr_left fun _ member => read_eq_of_places agree (List.mem_range.1 member)

/-- Writing the same bytes to two memories makes no address differ. -/
theorem read_writeBlock_eq {c : Nat} (same : m.read c = n.read c) (a : Nat) (bytes : List UInt8) :
    (m.writeBlock a bytes).read c = (n.writeBlock a bytes).read c := by
  induction bytes generalizing m n a with
  | nil => exact same
  | cons byte bytes ih =>
      refine ih ?_ (a + 1)
      rw [read_write, read_write, same]

end Memory

namespace Machine

/-! ## What a step reads -/

/-- How many bytes an instruction reads at the index. -/
def operandCount (m : Machine) : Instruction → Nat
  | .draw _ _ rows => rows.toNat
  | .loadRegs x => m.config.transferCount x
  | _ => 0

/-- The places that the next step reads. -/
def reads (m : Machine) : List (Fin 4096) :=
  Memory.places m.pc.toNat 2 ++ Memory.places m.index.toNat (m.operandCount m.next)

/-- Two machines hold the same bytes where the first of them is about to read. -/
def AgreeOnReads (m n : Machine) : Prop := ∀ a ∈ m.reads, m.memory.read a = n.memory.read a

instance (m n : Machine) : Decidable (m.AgreeOnReads n) :=
  List.decidableBAll (fun a : Fin 4096 => m.memory.read a = n.memory.read a) m.reads

/-- The addresses at which two machines hold different bytes. -/
def differing (m n : Machine) : Set (Fin 4096) := {a | m.memory.read a ≠ n.memory.read a}

/-- Equal but for memory. -/
def SameButMemory (m n : Machine) : Prop := n = { m with memory := n.memory }

variable {m : Machine} {memory : Memory}

/-! ## One step -/

theorem fetch_unread (agree : m.AgreeOnReads { m with memory }) :
    { m with memory }.fetch = m.fetch := by
  have opcode : m.memory.word m.pc.toNat = memory.word m.pc.toNat :=
    Memory.word_eq_of_places fun p member => agree p (List.mem_append_left _ member)
  rw [fetch_eq, fetch_eq, opcode]

/-- An instruction that reads the same bytes has the same effect on all but memory. -/
theorem effect_unread {i : Instruction}
    (agree : ∀ p ∈ Memory.places m.index.toNat (m.operandCount i),
      m.memory.read p = memory.read p) :
    { m with memory }.effect i =
      { m.effect i with memory := { m with memory }.memoryAfter i } := by
  cases i with
  | draw x y rows =>
      have sprite : m.memory.block m.index.toNat rows.toNat =
          memory.block m.index.toNat rows.toNat :=
        Memory.block_eq_of_places agree
      simp only [effect, covered, sprite]
      rfl
  | loadRegs x =>
      have bytes : { m with memory }.loaded (m.config.transferCount x) =
          m.loaded (m.config.transferCount x) := by
        refine Table.ext_get fun j => ?_
        simp only [loaded, Table.get_ofFn]
        split
        · rename_i inside
          exact (Memory.read_eq_of_places agree inside).symm
        · rfl
      simp only [effect, restored, bytes]
      rfl
  | waitKey x =>
      simp only [effect]
      split <;> rfl
  | skipEqByte _ _ | skipNeByte _ _ | skipEqReg _ _ | skipNeReg _ _ | skipHeld _
  | skipNotHeld _ =>
      simp only [effect, skipIf_eq]
      rfl
  | _ => rfl

/-- No instruction makes an address differ. -/
theorem memoryAfter_agree (i : Instruction) {a : Nat} (same : m.memory.read a = memory.read a) :
    (m.memoryAfter i).read a = ({ m with memory }.memoryAfter i).read a := by
  cases i with
  | storeDecimal x | storeRegs x => exact Memory.read_writeBlock_eq same _ _
  | _ => exact same

/-- Equal but for memory, and no address differs but those in `old`. -/
def Unseen (old : Set (Fin 4096)) (m n : Machine) : Prop :=
  m.SameButMemory n ∧ m.differing n ⊆ old

variable {old : Set (Fin 4096)}

theorem Unseen.of_with (kept : ∀ a : Fin 4096, a ∉ old → m.memory.read a = memory.read a) :
    Unseen old m { m with memory } :=
  ⟨rfl, fun a differs => Classical.byContradiction fun outside => differs (kept a outside)⟩

theorem Unseen.read_eq (unseen : Unseen old m { m with memory }) {a : Fin 4096}
    (outside : a ∉ old) : m.memory.read a = memory.read a :=
  Classical.byContradiction fun differs => outside (unseen.2 differs)

/-- **A step does not see what it does not read**, and makes no address differ. -/
theorem step_unread (agree : m.AgreeOnReads { m with memory })
    (unseen : Unseen old m { m with memory }) :
    m.step.Rel (Unseen old) { m with memory }.step := by
  let n : Machine := { m with memory }
  -- The opcode is among what is read, so both sides execute the same instruction.
  have fetched : n.fetch = m.fetch := fetch_unread agree
  have nextSame : n.next = m.next := congrArg decode fetched
  have same : m.passed.fault? m.next = n.passed.fault? n.next := by
    rw [nextSame]
    exact fault?_congr (m := m.passed) (n := n.passed) rfl rfl m.next
  have logs : m.stepLog = n.stepLog := by
    show m.stepLog = .fetched m.here n.fetch n.next :: m.passed.notes n.next
    rw [nextSame, fetched]
    rfl
  have stalled : n.stalled = { m.stalled with memory } := by
    rw [Machine.stalled, nextSame]
    rfl
  have failed : Unseen old m.stalled n.stalled := by
    rw [stalled]
    exact .of_with fun a => unseen.read_eq
  refine step_rel same logs failed fun _ => ?_
  have operands : ∀ p ∈ Memory.places m.passed.index.toNat (m.passed.operandCount m.next),
      m.passed.memory.read p = memory.read p :=
    fun p member => agree p (List.mem_append_right _ member)
  have after : n.passed.effect m.next =
      { m.passed.effect m.next with memory := { m.passed with memory }.memoryAfter m.next } :=
    effect_unread (m := m.passed) operands
  rw [nextSame, after]
  refine .of_with fun a outside => ?_
  rw [effect_memory]
  exact memoryAfter_agree (m := m.passed) m.next (unseen.read_eq outside)

/-! ## Runs -/

theorem lockstep_unseen (old : Set (Fin 4096)) :
    LockstepOn AgreeOnReads (· = ·) (Unseen old) where
  step := by
    intro m n agree unseen
    have same := unseen.1
    rw [same] at agree unseen ⊢
    exact step_unread agree unseen
  countDown := by
    intro m n unseen
    have same := unseen.1
    rw [same] at unseen ⊢
    exact .of_with fun a => unseen.read_eq
  isSounding := by
    intro m n unseen
    rw [unseen.1]
    rfl
  press := by
    rintro m n code _ down rfl unseen
    have same := unseen.1
    rw [same] at unseen ⊢
    exact .of_with fun a => unseen.read_eq
  reset := by
    intro m n unseen
    rw [unseen.1]
    exact .of_with fun a _ => rfl
  load := by
    intro m n rom unseen
    have same := unseen.1
    rw [same] at unseen ⊢
    refine load_rel rom ?_ unseen
    exact .of_with (m := { m with memory := m.memory.writeBlock Memory.programStart rom })
      fun a outside => Memory.read_writeBlock_eq (unseen.read_eq outside) _ _

/-- **Memory that is not read is not seen.**  Take two machines that differ in nothing but
memory.  Where they agree on what the next step reads, the step answers and reports the same
on both, they differ in nothing but memory after it, and in memory nowhere but where they did
before.  So it is after every call of a common list, as long as no step of it, also inside a
frame, reads an address at which the two still differ. -/
theorem unread_unseen {m n : Machine} (same : m.SameButMemory n) :
    (m.AgreeOnReads n → m.step.Rel (Unseen (m.differing n)) n.step) ∧
      ∀ ops, CalmOn AgreeOnReads (m.history ops) (n.history ops) →
        List.Forall₂ (Reply.Rel (Unseen (m.differing n)))
          (m.performAll ops) (n.performAll ops) := by
  have lockstep := lockstep_unseen (m.differing n)
  have unseen : Unseen (m.differing n) m n := ⟨same, subset_rfl⟩
  refine ⟨fun agree => lockstep.step agree unseen, fun ops calm => ?_⟩
  exact lockstep.performAll (Operation.matches_self ops) unseen calm

/-! ## Poles -/

/-- A machine that stores a register above the font and loads it from there again. -/
def storeThenLoad : Machine :=
  (boot {} 0 (some [0xA0, 0x50, 0xF1, 0x55, 0xA0, 0x50, 0xF1, 0x65])).machine

/-- The same with other bytes above the font. -/
def storeThenLoadDirty : Machine :=
  { storeThenLoad with memory := storeThenLoad.memory.writeBlock 0x050 [0x11, 0x22] }

/-- The first of these bytes is overwritten before it is read, and the other is not read at
all. -/
theorem storeThenLoad_unseen :
    storeThenLoad.SameButMemory storeThenLoadDirty ∧
      storeThenLoad.AgreeOnReads storeThenLoadDirty ∧
      storeThenLoad.step.Rel (Unseen (storeThenLoad.differing storeThenLoadDirty))
        storeThenLoadDirty.step ∧
      List.Forall₂ (Reply.Rel (Unseen (storeThenLoad.differing storeThenLoadDirty)))
        (storeThenLoad.performAll [.step, .tick, .frame 3])
        (storeThenLoadDirty.performAll [.step, .tick, .frame 3]) := by
  have same : storeThenLoad.SameButMemory storeThenLoadDirty := rfl
  have agree : storeThenLoad.AgreeOnReads storeThenLoadDirty := by decide +kernel
  obtain ⟨step, runs⟩ := unread_unseen same
  exact ⟨same, agree, step agree, runs _ (by decide +kernel)⟩

end Machine

end Chip8
