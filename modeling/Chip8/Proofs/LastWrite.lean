/-
# Chip8.Proofs.LastWrite -- every byte is the one last written there

Memory is written in four ways: as a whole when a machine is switched on or reset, by a
program that is loaded, by the three decimal digits of a register and by a row of registers.
`Moment.writes` lists what a moment wrote, address by address and in order; nothing else
writes, and all that is left of a history in memory is the last write to each address.

* `Write.last?`: the byte that a list of writes leaves at an address;
* `read_written`: memory after a list of writes, through that view;
* `atom_memory`: one call of the host makes its writes and no others;
* `memory_last_written`: so every byte is the one last written there, over any run.
-/
import Chip8.Proofs.Frame
import Chip8.Proofs.Recent

namespace Chip8

set_option autoImplicit false

/-! ## Writes -/

/-- A byte written at an address. -/
structure Write where
  address : Fin 4096
  byte : UInt8
  deriving DecidableEq, Repr

namespace Write

/-- Bytes written one after another from an address on, around the end of memory. -/
def block (a : Nat) (bytes : List UInt8) : List Write :=
  bytes.mapIdx fun j byte => ⟨Memory.place (a + j), byte⟩

/-- The font at the bottom and zeros above it. -/
def font : List Write :=
  (List.finRange 4096).map fun a => ⟨a, Memory.glyphs.getD a 0⟩

/-- A program, if it fits. -/
def program (rom : List UInt8) : List Write :=
  if rom.length ≤ maxRomSize then block Memory.programStart rom else []

/-- The byte written, if it was at the address. -/
def byteAt? (a : Fin 4096) (w : Write) : Option UInt8 := if w.address = a then some w.byte else none

/-- The byte last written at an address, if one was. -/
def last? (writes : List Write) (a : Fin 4096) : Option UInt8 := latest (byteAt? a) writes

theorem last?_cons (w : Write) (writes : List Write) (a : Fin 4096) :
    last? (w :: writes) a = (last? writes a).or (if w.address = a then some w.byte else none) :=
  latest_cons (byteAt? a) w writes

theorem last?_append (earlier later : List Write) (a : Fin 4096) :
    last? (earlier ++ later) a = (last? later a).or (last? earlier a) :=
  latest_append (byteAt? a) earlier later

theorem last?_eq_none {writes : List Write} {a : Fin 4096}
    (elsewhere : ∀ w ∈ writes, w.address ≠ a) : last? writes a = none :=
  latest_eq_none_iff.2 fun w member => if_neg (elsewhere w member)

/-- Where every write to an address is of one byte, and there is one, that byte is left. -/
theorem last?_eq_some {writes : List Write} {a : Fin 4096} {byte : UInt8}
    (written : ⟨a, byte⟩ ∈ writes) (only : ∀ w ∈ writes, w.address = a → w.byte = byte) :
    last? writes a = some byte := by
  cases last : last? writes a with
  | none =>
      have absent : byteAt? a ⟨a, byte⟩ = none := latest_eq_none_iff.1 last _ written
      rw [byteAt?, if_pos rfl] at absent
      cases absent
  | some other =>
      obtain ⟨w, member, given⟩ := exists_of_latest last
      rw [byteAt?] at given
      split at given
      · rename_i here
        rw [← Option.some.inj given, only w member here]
      · cases given

theorem last?_font (a : Fin 4096) : last? font a = some (Memory.glyphs.getD a 0) := by
  refine last?_eq_some (List.mem_map.2 ⟨a, List.mem_finRange a, rfl⟩) fun w member here => ?_
  obtain ⟨b, -, rfl⟩ := List.mem_map.1 member
  cases here
  rfl

theorem block_cons (a : Nat) (byte : UInt8) (bytes : List UInt8) :
    block a (byte :: bytes) = ⟨Memory.place a, byte⟩ :: block (a + 1) bytes := by
  unfold block
  rw [List.mapIdx_cons, Nat.add_zero]
  refine congrArg _ (congrArg (List.mapIdx · bytes) ?_)
  funext j next
  rw [Nat.add_comm j 1, Nat.add_assoc]

end Write

/-! ## Memory -/

namespace Memory

variable (m : Memory)

/-- Memory after a list of writes. -/
def written (writes : List Write) : Memory :=
  writes.foldl (fun m w => m.write w.address w.byte) m

@[simp] theorem place_val (a : Fin 4096) : place a = a := Fin.ext (Nat.mod_eq_of_lt a.isLt)

theorem ext_read {m n : Memory} (same : ∀ a : Fin 4096, m.read a = n.read a) : m = n := by
  obtain ⟨bytes⟩ := m
  obtain ⟨others⟩ := n
  congr 1
  refine Table.ext_get fun a => ?_
  simpa only [read, place_val] using same a

theorem written_append (earlier later : List Write) :
    m.written (earlier ++ later) = (m.written earlier).written later :=
  List.foldl_append

/-- **A list of writes leaves the last of them at each address**, and where it holds none
the byte that was there. -/
theorem read_written (writes : List Write) (a : Fin 4096) :
    (m.written writes).read a = (Write.last? writes a).getD (m.read a) := by
  induction writes generalizing m with
  | nil => rfl
  | cons w writes ih =>
      show ((m.write w.address w.byte).written writes).read a = _
      rw [ih, Write.last?_cons]
      by_cases here : w.address = a
      · subst here
        cases Write.last? writes w.address <;> simp
      · have apart : w.address.val % 4096 ≠ a.val % 4096 := by
          rw [Nat.mod_eq_of_lt w.address.isLt, Nat.mod_eq_of_lt a.isLt]
          exact fun same => here (Fin.ext same)
        cases Write.last? writes a <;> simp [here, apart]

theorem writeBlock_eq_written (a : Nat) (bytes : List UInt8) :
    m.writeBlock a bytes = m.written (Write.block a bytes) := by
  induction bytes generalizing m a with
  | nil => rfl
  | cons byte bytes ih =>
      rw [writeBlock, ih, Write.block_cons]
      show _ = (m.write (place a) byte).written (Write.block (a + 1) bytes)
      rw [write, write, place_val]

theorem read_initial (a : Fin 4096) : initial.read a = glyphs.getD a 0 := by
  have start : after 0 a = a := by
    unfold after
    omega
  rw [initial, read_writeBlock _ _ (by decide), start, List.getD_eq_getElem?_getD]
  simp [read]

/-- Whatever memory held, the font and the zeros above it are all that is left. -/
theorem written_font : m.written Write.font = initial := by
  refine ext_read fun a => ?_
  rw [read_written, Write.last?_font, read_initial, Option.getD_some]

end Memory

/-! ## What one moment writes -/

namespace Machine

/-- The writes of an instruction: digits of a register, or the first registers in a row. -/
def writesOf (m : Machine) : Instruction → List Write
  | .storeDecimal x =>
      Write.block m.index.toNat [m.val x / 100, m.val x / 10 % 10, m.val x % 10]
  | .storeRegs x =>
      Write.block m.index.toNat
        ((List.range (m.config.transferCount x)).map fun j => Table.get m.v (slotOf j))
  | _ => []

/-- The writes of switching a machine on, with a program if one is given. -/
def bootWrites (rom : Option (List UInt8)) : List Write :=
  Write.font ++ rom.elim [] Write.program

end Machine

/-- What a moment wrote to memory, in order. -/
def Moment.writes (k : Moment) : List Write :=
  match k.call with
  | .step => k.executed?.elim [] k.machine.writesOf
  | .reset => Write.font
  | .load rom | .loadFile _ (some rom) => Write.program rom
  | _ => []

namespace Machine

variable {m : Machine}

theorem take_registers (v : Vector UInt8 16) {n : Nat} (few : n ≤ 16) :
    v.toList.take n = (List.range n).map fun j => Table.get v (slotOf j) := by
  refine List.ext_getElem (by simp [few]) fun j inside _ => ?_
  have low : j < 16 := by
    rw [List.length_take, Vector.length_toList] at inside
    omega
  simp [Table.get, Nat.mod_eq_of_lt low]

theorem memoryAfter_eq {i : Instruction} (range : i.InRange) :
    m.memoryAfter i = m.memory.written (m.writesOf i) := by
  cases i with
  | storeDecimal x => exact m.memory.writeBlock_eq_written _ _
  | storeRegs x =>
      rw [memoryAfter, take_registers m.v (transferCount_le m.config range)]
      exact m.memory.writeBlock_eq_written _ _
  | _ => rfl

theorem step_memory (wf : m.WellFormed) :
    m.step.machine.memory = m.memory.written (Moment.writes ⟨m, .step⟩) := by
  rcases step_cases wf with ⟨executed, ran⟩ | ⟨refused, nothing⟩
  · rw [Moment.writes, executed, ran, effect_memory]
    exact memoryAfter_eq (m := m.passed) m.next_inRange
  · rw [Moment.writes, refused, nothing]
    rfl

theorem load_memory (m : Machine) (rom : List UInt8) :
    (m.load rom).machine.memory = m.memory.written (Write.program rom) := by
  rw [load_eq, Write.program]
  split
  · exact m.memory.writeBlock_eq_written _ _
  · rfl

/-- **One call makes its writes**, and none if it has none. -/
theorem atom_memory (wf : m.WellFormed) {op : Operation} (atom : op.IsAtom) :
    (m.perform op).machine.memory = m.memory.written (Moment.writes ⟨m, op⟩) := by
  cases op with
  | step => exact step_memory wf
  | frame n => exact atom.elim
  | tick | listen | press _ _ => rfl
  | reset => exact m.memory.written_font.symm
  | load rom => exact m.load_memory rom
  | loadFile path content =>
      cases content with
      | none => rfl
      | some rom => exact m.load_memory rom

theorem boot_memory (config : Config) (drawn : UInt64) (rom : Option (List UInt8))
    (before : Memory) :
    (boot config drawn rom).machine.memory = before.written (bootWrites rom) := by
  rw [bootWrites, Memory.written_append, Memory.written_font]
  cases rom with
  | none => rfl
  | some rom => exact (start config drawn).load_memory rom

end Machine

/-! ## What a run leaves -/

theorem Trail.memory_eq {m k : Machine} {past : List Moment} (trail : Trail m past k)
    (wf : m.WellFormed) : k.memory = m.memory.written (past.flatMap Moment.writes) := by
  induction trail with
  | nil => rfl
  | @snoc past k before op atom ih =>
      rw [Machine.atom_memory (before.wellFormed wf) atom, ih, ← Memory.written_append,
        List.flatMap_append, List.flatMap_singleton]

/-- After a machine is switched on, every address has been written. -/
theorem last?_boot (rom : Option (List UInt8)) (later : List Write) (a : Fin 4096) :
    ∃ byte, Write.last? (Machine.bootWrites rom ++ later) a = some byte := by
  refine Option.isSome_iff_exists.1 ?_
  rw [Machine.bootWrites, Write.last?_append, Write.last?_append, Write.last?_font]
  simp

namespace Machine

/-- A program is read back from where programs start, and what lies above it is kept. -/
theorem read_load {m : Machine} {rom : List UInt8} (fits : rom.length ≤ 3584) {j : Nat}
    (inside : j < 3584) :
    (m.load rom).machine.memory.read (0x200 + j) = rom[j]?.getD (m.memory.read (0x200 + j)) := by
  have place : Memory.after Memory.programStart (0x200 + j) = j := by
    unfold Memory.after Memory.programStart
    omega
  rw [load_eq, maxRomSize, if_pos fits]
  show (m.memory.writeBlock _ rom).read _ = _
  rw [Memory.read_writeBlock _ _ (by omega), place]

/-- **Memory holds what was last written.**  After any calls of a host every byte is the
last that was written there, by switching on, a reset, a load that succeeded or an executed
`storeDecimal` or `storeRegs`.  Where a call writes nothing it changes nothing, a failed one
changes nothing at all, and a program loaded over a longer one leaves the tail of that. -/
theorem memory_last_written (config : Config) (drawn : UInt64) (rom : Option (List UInt8))
    (ops : List Operation) :
    let start := (boot config drawn rom).machine
    let m := start.after ops
    let writes := bootWrites rom ++ (start.history ops).flatMap Moment.writes
    (∀ a : Fin 4096, Write.last? writes a = some (m.memory.read a)) ∧
      (∀ op, op.IsAtom → ∀ a : Fin 4096, (∀ w ∈ Moment.writes ⟨m, op⟩, w.address ≠ a) →
        (m.perform op).machine.memory.read a = m.memory.read a) ∧
      (∀ op fault, op.IsAtom → (m.perform op).result = .error fault →
        (m.perform op).machine.memory = m.memory) ∧
      ∀ long short : List UInt8, long.length ≤ 3584 → short.length ≤ long.length →
        ∀ j < long.length, (m.after [.load long, .load short]).memory.read (0x200 + j) =
          (short ++ long.drop short.length).getD j 0 := by
  intro start m writes
  have trail : Trail start (start.history ops) m := start.trail_history ops
  have wfs : start.WellFormed := boot_wellFormed config drawn rom
  have wf : m.WellFormed := trail.wellFormed wfs
  have held (before : Memory) : m.memory = before.written writes := by
    rw [trail.memory_eq wfs, boot_memory config drawn rom before, ← Memory.written_append]
  refine ⟨fun a => ?_, fun op atom a elsewhere => ?_, fun op fault atom failed => ?_, ?_⟩
  · obtain ⟨byte, last⟩ := last?_boot rom ((start.history ops).flatMap Moment.writes) a
    rw [held .initial, Memory.read_written, last, Option.getD_some]
  · rw [atom_memory wf atom, Memory.read_written, Write.last?_eq_none elsewhere]
    rfl
  · rw [atom_error_machine wf atom failed]
  · intro long short fits shorter j inside
    show ((m.load long).machine.load short).machine.memory.read _ = _
    rw [read_load (by omega) (by omega), read_load fits (by omega), List.getD_eq_getElem?_getD]
    by_cases covered : j < short.length
    · rw [List.getElem?_append_left covered, List.getElem?_eq_getElem covered]
      rfl
    · have beyond : short.length ≤ j := Nat.le_of_not_lt covered
      rw [List.getElem?_append_right beyond, List.getElem?_drop, Nat.add_sub_cancel' beyond,
        List.getElem?_eq_none beyond, List.getElem?_eq_getElem inside]
      rfl

/-- A machine about to store two registers, the first of them in the last byte of memory. -/
def overEnd : Machine :=
  (boot {} 0 (some [0xAF, 0xFF, 0x60, 0x2A, 0x61, 0x2B, 0xF2, 0x55])).machine.after [.frame 3]

/-- The second goes over the first byte of the font. -/
example : Moment.writes ⟨overEnd, .step⟩ = [⟨0xFFF, 0x2A⟩, ⟨0x000, 0x2B⟩] := by
  decide +kernel

end Machine

end Chip8
