/-
# Chip8.Proofs.Transfers -- registers that go to memory and come back

A store writes the first registers to memory from the index on, a load reads them from there, and
both leave the index behind the last byte.  They go byte by byte, so the bytes may lie around the
end of memory and the index may wrap on the way.  Still each undoes the other, for any number of
registers and however transfers count, if the index is put back to where it was.  What it is put
back to need only name the same byte: its high bits are not seen.

* `Memory.read_writeBlock_of_not_mem`: a block that is written changes nothing outside its places;
* `SameWindow m k`: the transfers of two machines meet the same bytes of memory;
* `read_stored`, `get_restored` say what one transfer does; `memory_stored_restored` and
  `get_restored_stored` say what two of them do in a row;
* `transfers_inverse`: so for the two instructions, on any machine.
-/
import Chip8.Proofs.LastWrite
import Chip8.Proofs.Options
import Chip8.Proofs.Unread

namespace Chip8

set_option autoImplicit false

/-! ## Places that a block takes -/

namespace Memory

theorem mem_places {a n : Nat} {c : Fin 4096} : c ∈ places a n ↔ ∃ j < n, place (a + j) = c := by
  simp [places]

/-- A place that a block does not take lies at least as far behind its start as it is long. -/
theorem le_after_of_not_mem {a n : Nat} {c : Fin 4096} (outside : c ∉ places a n) :
    n ≤ after a c := by
  by_contra inside
  refine outside (mem_places.2 ⟨after a c, Nat.lt_of_not_le inside, ?_⟩)
  have bound := c.isLt
  apply Fin.ext
  simp only [place, after]
  omega

theorem read_writeBlock_of_not_mem (m : Memory) {a : Nat} {bytes : List UInt8}
    (short : bytes.length ≤ 4096) {c : Fin 4096} (outside : c ∉ places a bytes.length) :
    (m.writeBlock a bytes).read c = m.read c := by
  rw [read_writeBlock m a short, List.getElem?_eq_none (le_after_of_not_mem outside)]
  rfl

end Memory

namespace Machine

/-! ## One transfer -/

/-- The transfers of `k` meet the bytes that those of `m` do: the index names the same byte, and
an operand stands for as many registers. -/
structure SameWindow (m k : Machine) : Prop where
  index : k.index.toNat % 4096 = m.index.toNat % 4096
  inclusive : k.config.inclusive = m.config.inclusive

variable {m k : Machine} {count : Nat}

theorem SameWindow.transferCount_eq (window : m.SameWindow k) (x : UInt8) :
    k.config.transferCount x = m.config.transferCount x :=
  transferCount_congr window.inclusive x

theorem length_take_registers (m : Machine) (few : count ≤ 16) :
    (m.v.toList.take count).length = count := by
  simp [few]

/-- A store changes no byte but those it writes. -/
theorem read_stored_of_not_mem (few : count ≤ 16) {a : Fin 4096}
    (outside : a ∉ Memory.places m.index.toNat count) :
    (m.stored count).memory.read a = m.memory.read a := by
  have length := m.length_take_registers few
  apply Memory.read_writeBlock_of_not_mem
  · omega
  · rw [length]
    exact outside

theorem get_restored_of_le {j : Fin 16} (beyond : count ≤ j.val) :
    Table.get (m.restored count).v j = Table.get m.v j := by
  show Table.get (m.loaded count) j = _
  rw [loaded, Table.get_ofFn, if_neg (Nat.not_lt.2 beyond)]

/-! ## Two transfers -/

/-- Registers that were stored come back, and the others are those of the machine they come back
to. -/
theorem get_restored_stored (few : count ≤ 16) (memory : k.memory = (m.stored count).memory)
    (index : k.index.toNat % 4096 = m.index.toNat % 4096) (j : Fin 16) :
    Table.get (k.restored count).v j =
      if j.val < count then Table.get m.v j else Table.get k.v j := by
  split
  · rename_i inside
    calc Table.get (k.restored count).v j = k.memory.read (k.index.toNat + j) :=
          k.get_restored inside
      _ = k.memory.read (m.index.toNat + j) := k.memory.read_add_congr index j
      _ = (m.stored count).memory.read (m.index.toNat + j) := by rw [memory]
      _ = Table.get m.v j := m.read_stored few inside
  · rename_i beyond
    exact get_restored_of_le (Nat.not_lt.1 beyond)

/-- Registers that were loaded are stored over the bytes that they came from. -/
theorem memory_stored_restored (few : count ≤ 16) (memory : k.memory = m.memory)
    (registers : k.v = (m.restored count).v)
    (index : k.index.toNat % 4096 = m.index.toNat % 4096) : (k.stored count).memory = m.memory := by
  apply Memory.ext_read
  intro a
  by_cases inside : a ∈ Memory.places k.index.toNat count
  · obtain ⟨j, low, rfl⟩ := Memory.mem_places.1 inside
    have named : j < 16 := Nat.lt_of_lt_of_le low few
    rw [Memory.read_place, Memory.read_place]
    calc (k.stored count).memory.read (k.index.toNat + j) = Table.get k.v ⟨j, named⟩ :=
          k.read_stored few (j := ⟨j, named⟩) low
      _ = Table.get (m.restored count).v ⟨j, named⟩ := by rw [registers]
      _ = m.memory.read (m.index.toNat + j) := m.get_restored (j := ⟨j, named⟩) low
      _ = m.memory.read (k.index.toNat + j) := m.memory.read_add_congr index.symm j
  · rw [read_stored_of_not_mem few inside, memory]

/-! ## The two instructions -/

variable {x : UInt8}

/-- From `m` to `n` the first registers have gone to memory: the index has moved on by their
number, no byte has changed but theirs, and nothing else but the counter.  Wherever the index names
their first byte again they come back, whatever else has happened, and leave the others alone. -/
structure Dumped (m : Machine) (x : UInt8) (n : Machine) : Prop where
  index : n.index.toNat = (m.index.toNat + m.config.transferCount x) % 65536
  kept : ∀ a : Fin 4096, a ∉ Memory.places m.index.toNat (m.config.transferCount x) →
    n.memory.read a = m.memory.read a
  rest : n = { m with memory := n.memory, index := n.index, pc := n.pc }
  back : ∀ k : Machine, k.memory = n.memory → m.SameWindow k →
    k.Yields (.loadRegs x) fun l => ∀ j : Fin 16, Table.get l.v j =
      if j.val < m.config.transferCount x then Table.get m.v j else Table.get k.v j

/-- From `m` to `n` the first registers have come from memory: the index has moved on by their
number, and nothing else but the counter has changed.  Wherever the index names their first byte
again they go back, and memory is what it was. -/
structure Filled (m : Machine) (x : UInt8) (n : Machine) : Prop where
  index : n.index.toNat = (m.index.toNat + m.config.transferCount x) % 65536
  rest : n = { m with v := n.v, index := n.index, pc := n.pc }
  back : ∀ k : Machine, k.memory = n.memory → k.v = n.v → m.SameWindow k →
    k.Yields (.storeRegs x) fun l => l.memory = m.memory

theorem dumped_effect (inside : x < 16) (pc : UInt16) :
    m.Dumped x ({ m with pc }.effect (.storeRegs x)) where
  index := index_add_toNat m.index _
  kept a outside := read_stored_of_not_mem (transferCount_le m.config inside) outside
  rest := rfl
  back k memory window := by
    have counts := window.transferCount_eq x
    refine yields_of_unrefused inside (fun _ => rfl) fun pc j => ?_
    show Table.get (k.restored (k.config.transferCount x)).v j = _
    rw [counts]
    exact get_restored_stored (transferCount_le m.config inside) memory window.index j

theorem filled_effect (inside : x < 16) (pc : UInt16) :
    m.Filled x ({ m with pc }.effect (.loadRegs x)) where
  index := index_add_toNat m.index _
  rest := rfl
  back k memory registers window := by
    have counts := window.transferCount_eq x
    have unchanged : k.memory = m.memory := memory.trans (effect_memory _ (.loadRegs x))
    refine yields_of_unrefused inside (fun _ => rfl) fun pc => ?_
    show (k.stored (k.config.transferCount x)).memory = m.memory
    rw [counts]
    exact memory_stored_restored (transferCount_le m.config inside) unchanged registers window.index

/-- **Each transfer undoes the other.**  On any machine, wherever its index is: a store and a load
up to the same register succeed and move the index on by the number of registers, modulo 65536.
The store writes no byte but theirs, and a load that starts at the same byte gives them back, with
the others as they were just before it.  What a load read, a store that starts at the same byte
writes back, and memory is what it was before. -/
theorem transfers_inverse (m : Machine) (inside : x < 16) :
    m.Yields (.storeRegs x) (m.Dumped x) ∧ m.Yields (.loadRegs x) (m.Filled x) := by
  constructor
  · exact yields_of_unrefused inside (fun _ => rfl) (dumped_effect inside)
  · exact yields_of_unrefused inside (fun _ => rfl) (filled_effect inside)

/-- Two registers stored around the end of memory come back to a machine with another high bit in
its index and zeros in its registers; and two that are loaded from there go back to it. -/
theorem overEnd_transfers :
    (2 : UInt8) < 16 ∧ overEnd.step.result = .ok () ∧
      overEnd.step.machine.index.toNat = 0x1001 ∧
      (∃ l, { overEnd.step.machine with index := 0x1FFF, v := Vector.replicate 16 0 }.execute
          (.loadRegs 2) = .ok () l ∧ l.val 0 = 0x2A ∧ l.val 1 = 0x2B ∧ l.val 2 = 0) ∧
      ∃ n, overEnd.execute (.loadRegs 2) = .ok () n ∧
        ∃ l, { n with index := 0x1FFF }.execute (.storeRegs 2) = .ok () l ∧
          l.memory = overEnd.memory := by
  have two : (2 : UInt8) < 16 := by decide
  have decoded : decode (overEnd.memory.word overEnd.pc.toNat) = .storeRegs 2 := by
    decide +kernel
  have index : overEnd.index = 0x0FFF := by decide +kernel
  have exclusive : overEnd.config.inclusive = false := by decide +kernel
  have count : overEnd.config.transferCount 2 = 2 := by
    rw [Config.transferCount, exclusive]
    rfl
  have values : overEnd.val 0 = 0x2A ∧ overEnd.val 1 = 0x2B := by decide +kernel
  obtain ⟨store, load⟩ := transfers_inverse overEnd two
  obtain ⟨ok, dumped⟩ := store.stepped (Instruction.decode_eq_iff.1 decoded)
  obtain ⟨n, loads, filled⟩ := load.executed
  have low : (0x1FFF : UInt16).toNat % 4096 = overEnd.index.toNat % 4096 := by rw [index]; rfl
  -- What the store left is opaque from here on: nothing about it is to be evaluated.
  generalize overEnd.step.machine = stored at dumped ⊢
  have afterStore : stored.config.inclusive = overEnd.config.inclusive := by
    rw [dumped.rest]
  have afterLoad : n.config.inclusive = overEnd.config.inclusive := by
    rw [filled.rest]
  refine ⟨two, ok, ?_, ?_, n, loads, ?_⟩
  · rw [dumped.index, index, count]
    rfl
  · obtain ⟨l, executed, back⟩ := (dumped.back
      { stored with index := 0x1FFF, v := Vector.replicate 16 0 } rfl ⟨low, afterStore⟩).executed
    rw [count] at back
    have third := ((back 2).trans (if_neg (Nat.lt_irrefl 2))).trans (Table.get_replicate 0 2)
    exact ⟨l, executed, (back 0).trans values.1, (back 1).trans values.2, third⟩
  · exact (filled.back { n with index := 0x1FFF } rfl rfl ⟨low, afterLoad⟩).executed

end Machine

end Chip8
