/-
# Chip8.Proofs.WellFormed -- what holds of every machine a host can come to

A machine is well formed when its counter and all its return addresses are addresses, its
stack has no more than sixteen entries and every cell is off or on.  The return addresses
are in it because a return makes one of them the counter, dead slots because a stack that
shrank can grow over them again.

* `effect_wellFormed`, `step_wellFormed`: instructions and steps keep it;
* `Trail.wellFormed`: so does every trail, and with it every call, a frame included;
* `not_isBound_of_step`: a step of a well-formed machine never meets a bound;
* `reachable_safe`: all of it, for every machine a host can come to.
-/
import Chip8.Proofs.Effect
import Chip8.Proofs.History

namespace Chip8

set_option autoImplicit false

theorem mod_lt_4096 (a : UInt16) : a % 4096 < 4096 := by
  rw [UInt16.lt_iff_toNat_lt, UInt16.toNat_mod]
  exact Nat.mod_lt _ (by decide)

/-! ## Cells that are off or on -/

namespace Screen

/-- Every cell is off or on. -/
def Binary (s : Screen) : Prop := ∀ i, Table.get s.cells i = 0 ∨ Table.get s.cells i = 1

theorem binary_blank : Binary blank := by
  intro i
  left
  simp [blank]

theorem Binary.toggle {s : Screen} (binary : s.Binary) (x y : Nat) : (s.toggle x y).Binary := by
  intro i
  simp only [Screen.toggle, Table.get_set]
  split
  · split <;> simp
  · exact binary i

theorem Binary.flip {s : Screen} (binary : s.Binary) (positions : List (Nat × Nat)) :
    (s.flip positions).1.Binary := by
  induction positions generalizing s with
  | nil => exact binary
  | cons position rest ih => exact ih (binary.toggle position.1 position.2)

end Screen

/-! ## Return addresses -/

namespace CallStack

/-- At most sixteen entries, and every slot holds an address. -/
structure Sound (s : CallStack) : Prop where
  depth_le : s.depth ≤ 16
  slot_lt : ∀ i, Table.get s.slots i < 4096

theorem sound_empty : Sound empty where
  depth_le := Nat.zero_le _
  slot_lt i := by
    simp only [empty, Table.get_replicate]
    decide

namespace Sound

variable {s : CallStack}

theorem pushed (sound : s.Sound) (room : s.depth < 16) {next : UInt16} (address : next < 4096) :
    (s.pushed next).Sound where
  depth_le := room
  slot_lt i := by
    simp only [CallStack.pushed, Table.get_set]
    split
    · exact address
    · exact sound.slot_lt i

theorem popped (sound : s.Sound) : s.popped.Sound where
  depth_le := Nat.le_trans (Nat.sub_le _ _) sound.depth_le
  slot_lt := sound.slot_lt

theorem top_lt (sound : s.Sound) : s.top < 4096 := sound.slot_lt _

end Sound

end CallStack

/-! ## Well-formed machines -/

namespace Machine

structure WellFormed (m : Machine) : Prop where
  pc_lt : m.pc < 4096
  stack : m.stack.Sound
  screen : m.screen.Binary

/-- A counter that is an address is its own masked counter. -/
theorem WellFormed.here_eq {m : Machine} (wf : m.WellFormed) : m.here = m.pc := by
  refine UInt16.toNat.inj ?_
  rw [here, UInt16.toNat_mod]
  exact Nat.mod_eq_of_lt wf.pc_lt

/-- What a step does at an instruction that is not refused. -/
theorem step_of_spelled {m : Machine} {i : Instruction} (wf : m.WellFormed)
    (spelled : m.next = i) (runs : { m with pc := (m.pc + 2) % 4096 }.refusal i = none) :
    m.step = ⟨{ m with pc := (m.pc + 2) % 4096 }.effect i, m.stepLog, .ok ()⟩ := by
  have passed : m.passed = { m with pc := (m.pc + 2) % 4096 } := by rw [Machine.passed, wf.here_eq]
  rw [← passed, ← spelled] at runs ⊢
  exact step_of_runs wf.stack.depth_le runs

theorem fresh_wellFormed (random : Random.Stream) (config : Config) :
    (fresh random config).WellFormed where
  pc_lt := by
    show UInt16.ofNat Memory.programStart < 4096
    decide
  stack := CallStack.sound_empty
  screen := Screen.binary_blank

theorem passed_wellFormed {m : Machine} (wf : m.WellFormed) : m.passed.WellFormed where
  pc_lt := mod_lt_4096 _
  stack := wf.stack
  screen := wf.screen

theorem effect_pc_lt {m : Machine} {i : Instruction} (wf : m.WellFormed) (range : i.InRange) :
    (m.effect i).pc < 4096 := by
  have skips (c : Bool) : (m.skipIf c).pc < 4096 := by
    cases c with
    | false => exact wf.pc_lt
    | true => exact mod_lt_4096 _
  cases i with
  | ret => exact wf.stack.top_lt
  | jump a | call a => exact range
  | skipEqByte _ _ | skipNeByte _ _ | skipEqReg _ _ | skipNeReg _ _ | skipHeld _
  | skipNotHeld _ => exact skips _
  | jumpOffset a => exact mod_lt_4096 _
  | waitKey x =>
      simp only [effect]
      split
      · exact wf.pc_lt
      · exact mod_lt_4096 _
      · exact wf.pc_lt
  | _ =>
      simp only [effect, put, setFlag]
      exact wf.pc_lt

theorem effect_wellFormed {m : Machine} {i : Instruction} (wf : m.WellFormed)
    (range : i.InRange) (runs : m.refusal i = none) : (m.effect i).WellFormed where
  pc_lt := effect_pc_lt wf range
  stack := by
    rw [effect_stack]
    cases i with
    | ret => exact wf.stack.popped
    | call a => exact wf.stack.pushed (depth_lt_of_call runs) wf.pc_lt
    | _ => exact wf.stack
  screen := by
    rw [effect_screen]
    cases i with
    | clear => exact Screen.binary_blank
    | draw x y rows => exact wf.screen.flip _
    | _ => exact wf.screen

theorem step_wellFormed {m : Machine} (wf : m.WellFormed) : m.step.machine.WellFormed := by
  cases refused : m.passed.refusal m.next with
  | some fault =>
      rw [step_of_refusal wf.stack.depth_le refused]
      exact { wf with pc_lt := mod_lt_4096 _ }
  | none =>
      rw [step_of_runs wf.stack.depth_le refused]
      exact effect_wellFormed (passed_wellFormed wf) m.next_inRange refused

theorem load_wellFormed {m : Machine} (wf : m.WellFormed) (rom : List UInt8) :
    (m.load rom).machine.WellFormed := by
  rw [load_eq]
  split
  · exact { wf with }
  · exact wf

/-- Every call but a frame keeps a machine well formed. -/
theorem atom_wellFormed {m : Machine} (wf : m.WellFormed) {op : Operation} (atom : op.IsAtom) :
    (m.perform op).machine.WellFormed := by
  cases op with
  | step => exact step_wellFormed wf
  | frame n => exact atom.elim
  | tick | press _ _ => exact { wf with }
  | listen => exact wf
  | reset => exact fresh_wellFormed m.random m.config
  | load rom => exact load_wellFormed wf rom
  | loadFile path content =>
      cases content with
      | none => exact wf
      | some rom => exact load_wellFormed wf rom

end Machine

theorem Trail.wellFormed {m k : Machine} {past : List Moment} (trail : Trail m past k)
    (wf : m.WellFormed) : k.WellFormed := by
  induction trail with
  | nil => exact wf
  | snoc _ op atom ih => exact Machine.atom_wellFormed ih atom

/-- Every call of a trail was made on a well-formed machine. -/
theorem Trail.wellFormed_of_mem {m n : Machine} {past : List Moment} (trail : Trail m past n)
    (wf : m.WellFormed) {k : Moment} (member : k ∈ past) : k.machine.WellFormed := by
  obtain ⟨earlier, later, rfl⟩ := List.append_of_mem member
  exact trail.upTo.1.wellFormed wf

namespace Machine

theorem boot_wellFormed (config : Config) (drawn : UInt64) (rom : Option (List UInt8)) :
    (boot config drawn rom).machine.WellFormed := by
  have started : (start config drawn).WellFormed := fresh_wellFormed _ config
  cases rom with
  | none => exact started
  | some rom => exact load_wellFormed started rom

theorem Reachable.wellFormed {m : Machine} (reachable : m.Reachable) : m.WellFormed := by
  obtain ⟨config, drawn, rom, ops, rfl⟩ := reachable
  exact (trail_history _ ops).wellFormed (boot_wellFormed config drawn rom)

/-! ## No bound is met

A fault that `Fault.IsBound` picks out is an index past the end of a table or a sum that
does not fit.  What `execute` does not check, because the numbers here have no width, is
what `SumsFit` says of the instruction that is next. -/

/-- The numbers an instruction forms fit the width they are kept in: a byte for the depth
of the stack, and for all others a word is enough. -/
def SumsFit (m : Machine) : Instruction → Prop
  | .call _ => m.stack.depth < 16 → m.stack.depth + 1 < UInt8.size
  | .ret => m.stack.depth ≠ 0 → 1 ≤ m.stack.depth ∧ m.stack.depth - 1 < 16
  | .jumpOffset a => a.toNat + (m.val 0).toNat < UInt16.size
  | .loadGlyph x => (m.val x).toNat * Memory.glyphSize < UInt16.size
  | .draw x y rows => ∀ p ∈ m.covered x y rows, p.1 < UInt16.size ∧ p.2 < UInt16.size
  | .storeRegs x | .loadRegs x => m.config.transferCount x ≤ 16
  | _ => True

theorem footprint_lt {x y : Nat} {sprite : List UInt8} {p : Nat × Nat}
    (covers : p ∈ Sprite.footprint x y sprite) : p.1 < x + 8 ∧ p.2 < y + sprite.length := by
  induction sprite generalizing y with
  | nil => simp [Sprite.footprint] at covers
  | cons row rows ih =>
      simp only [Sprite.footprint, List.mem_append, List.mem_map] at covers
      rcases covers with ⟨column, inRow, rfl⟩ | further
      · simp only [Sprite.columns, List.mem_map, List.mem_filter, List.mem_range] at inRow
        obtain ⟨b, ⟨small, -⟩, rfl⟩ := inRow
        simp only [List.length_cons]
        omega
      · have := ih further
        simp only [List.length_cons]
        omega

theorem sumsFit {m : Machine} {i : Instruction} (fits : m.stack.depth ≤ 16)
    (range : i.InRange) : m.SumsFit i := by
  cases i with
  | call a =>
      intro room
      show m.stack.depth + 1 < 256
      omega
  | ret =>
      intro some
      omega
  | jumpOffset a =>
      have low : a.toNat < 4096 := range
      have byte := (m.val 0).toNat_lt
      show a.toNat + (m.val 0).toNat < 65536
      omega
  | loadGlyph x =>
      have byte := (m.val x).toNat_lt
      show (m.val x).toNat * 5 < 65536
      omega
  | draw x y rows =>
      intro p covers
      have few : rows.toNat < 16 := range.2.2
      have left := (m.val x).toNat_lt
      have upper := (m.val y).toNat_lt
      have inside := footprint_lt covers
      simp only [Memory.block, List.length_map, List.length_range] at inside
      show p.1 < 65536 ∧ p.2 < 65536
      omega
  | storeRegs x | loadRegs x => exact transferCount_le m.config range
  | _ => trivial

theorem not_isBound_of_refusal {m : Machine} {i : Instruction} {fault : Fault}
    (refused : m.refusal i = some fault) : ¬ fault.IsBound := by
  cases i with
  | ret | call _ =>
      simp only [refusal] at refused
      split at refused <;> cases refused
      exact id
  | _ => cases refused

theorem not_isBound_of_step {m : Machine} {fault : Fault} (fits : m.stack.depth ≤ 16)
    (failed : m.step.result = .error fault) : ¬ fault.IsBound := by
  cases refused : m.passed.refusal m.next with
  | none =>
      rw [step_of_runs fits refused] at failed
      cases failed
  | some other =>
      rw [step_of_refusal fits refused] at failed
      cases failed
      exact not_isBound_of_refusal refused

theorem not_isBound_of_load {m : Machine} {rom : List UInt8} {fault : Fault}
    (failed : (m.load rom).result = .error fault) : ¬ fault.IsBound := by
  rw [load_eq] at failed
  split at failed <;> cases failed
  exact id

theorem not_isBound_of_perform {m : Machine} (wf : m.WellFormed) {op : Operation}
    {fault : Fault} (failed : (m.perform op).result = .error fault) : ¬ fault.IsBound := by
  cases op with
  | step => exact not_isBound_of_step wf.stack.depth_le (Reply.answered_error_iff.1 failed)
  | frame n =>
      obtain ⟨past, k, trail, outcome⟩ := frame_fault (Reply.answered_error_iff.1 failed)
      exact not_isBound_of_step (trail.wellFormed wf).stack.depth_le outcome
  | load rom => exact not_isBound_of_load (Reply.answered_error_iff.1 failed)
  | loadFile path content =>
      cases content with
      | none =>
          cases Reply.answered_error_iff.1 failed
          exact id
      | some rom => exact not_isBound_of_load (Reply.answered_error_iff.1 failed)
  | tick | listen | press _ _ | reset => cases failed

/-- A program that is copied lies inside memory, so copying it does not go around. -/
theorem programStart_add_length_le {m : Machine} {rom : List UInt8}
    (copied : (m.load rom).result = .ok ()) : Memory.programStart + rom.length ≤ 4096 := by
  rw [load_eq] at copied
  split at copied
  · rename_i short
    simp only [maxRomSize] at short
    simp only [Memory.programStart]
    omega
  · cases copied

/-- **Every machine a host can come to is safe.**  It is well formed; whatever the host
calls next, no index is past the end of its table, no checked sum overflows and no copied
program runs out of memory; and so it is for each single call that this one comes down
to. -/
theorem reachable_safe (config : Config) (drawn : UInt64) (rom : Option (List UInt8))
    (ops : List Operation) :
    (∀ fault, (boot config drawn rom).result = .error fault → ¬ fault.IsBound) ∧
      ((boot config drawn rom).machine.after ops).WellFormed ∧
      (∀ (m : Machine) (bytes : List UInt8), (m.load bytes).result = .ok () →
        Memory.programStart + bytes.length ≤ 4096) ∧
      ∀ op, (∀ fault, (((boot config drawn rom).machine.after ops).perform op).result =
          .error fault → ¬ fault.IsBound) ∧
        ∀ k ∈ ((boot config drawn rom).machine.after ops).momentsOf op,
          k.machine.WellFormed ∧ k.machine.SumsFit k.machine.next := by
  have wf := Reachable.wellFormed ⟨config, drawn, rom, ops, rfl⟩
  refine ⟨?_, wf, fun m bytes => programStart_add_length_le,
    fun op => ⟨fun fault => not_isBound_of_perform wf, ?_⟩⟩
  · intro fault failed
    cases rom with
    | none => cases failed
    | some rom => exact not_isBound_of_load failed
  · intro k member
    have kept := (trail_momentsOf _ op).wellFormed_of_mem wf member
    exact ⟨kept, sumsFit kept.stack.depth_le k.machine.next_inRange⟩

end Machine

end Chip8
