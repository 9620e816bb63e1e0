/-
# Chip8.Proofs.Decimals -- a byte written out in decimal and read in again

One instruction writes the three decimal digits of a register to memory, the hundreds first, at the
index and the two places behind it, which may lie around the end of memory.  It changes nothing
else, so the digits are still to be found from the index on, and a load of three registers brings
them back as a number, also where the register that was written out is one of the three.

* `decimalDigits_le`, `decimalDigits_value`: the digits of a byte, and the byte from its digits;
* `Memory.value_written`: the same once they have been written to memory;
* `Memory.places_nodup`: places in a row are different places, as long as they do not go all around;
* `WrittenOut m x n`: what writing a register out leaves, and what comes of loading it back;
* `decimal_reversible`: so for the instruction, on any machine.
-/
import Chip8.Proofs.Transfers
import Mathlib.Data.List.Nodup

namespace Chip8

set_option autoImplicit false

/-! ## Digits -/

theorem decimalDigits_le {b digit : UInt8} (member : digit ∈ decimalDigits b) : digit ≤ 9 := by
  have bound := b.toNat_lt
  simp only [decimalDigits, List.mem_cons, List.not_mem_nil, or_false] at member
  rw [UInt8.le_iff_toNat_le]
  rcases member with rfl | rfl | rfl
  · rw [UInt8.toNat_div]
    simp only [UInt8.reduceToNat]
    omega
  · rw [UInt8.toNat_mod, UInt8.toNat_div]
    simp only [UInt8.reduceToNat]
    omega
  · rw [UInt8.toNat_mod]
    simp only [UInt8.reduceToNat]
    omega

theorem decimalDigits_value (b : UInt8) :
    100 * (b / 100).toNat + 10 * (b / 10 % 10).toNat + (b % 10).toNat = b.toNat := by
  simp only [UInt8.toNat_mod, UInt8.toNat_div, UInt8.reduceToNat]
  omega

theorem length_decimalDigits_le (b : UInt8) : (decimalDigits b).length ≤ 4096 := by
  simp [decimalDigits]

namespace Memory

theorem places_nodup (a : Nat) {n : Nat} (few : n ≤ 4096) : (places a n).Nodup := by
  refine List.Nodup.map_on ?_ List.nodup_range
  intro i first j second same
  have remainder : (a + i) % 4096 = (a + j) % 4096 := congrArg Fin.val same
  rw [List.mem_range] at first second
  omega

variable (memory : Memory) {a c : Nat} (b : UInt8)

theorem read_written_le {p : Fin 4096} (member : p ∈ places a 3) :
    (memory.writeBlock a (decimalDigits b)).read p ≤ 9 := by
  obtain ⟨j, inside, rfl⟩ := mem_places.1 member
  have inside : j < (decimalDigits b).length := inside
  rw [read_place, read_writeBlock_add _ _ (length_decimalDigits_le b) inside]
  exact decimalDigits_le (List.getElem_mem inside)

/-- From any number that names the place of the first digit on, the digits make up the byte. -/
theorem value_written (same : c % 4096 = a % 4096) :
    100 * ((memory.writeBlock a (decimalDigits b)).read c).toNat +
      10 * ((memory.writeBlock a (decimalDigits b)).read (c + 1)).toNat +
        ((memory.writeBlock a (decimalDigits b)).read (c + 2)).toNat = b.toNat := by
  have short := length_decimalDigits_le b
  have hundreds : (memory.writeBlock a (decimalDigits b)).read c = b / 100 :=
    (read_congr _ same).trans (memory.read_writeBlock_add a short (by decide : 0 < 3))
  have tens : (memory.writeBlock a (decimalDigits b)).read (c + 1) = b / 10 % 10 :=
    (read_add_congr _ same 1).trans (memory.read_writeBlock_add a short (by decide : 1 < 3))
  have ones : (memory.writeBlock a (decimalDigits b)).read (c + 2) = b % 10 :=
    (read_add_congr _ same 2).trans (memory.read_writeBlock_add a short (by decide : 2 < 3))
  rw [hundreds, tens, ones]
  exact decimalDigits_value b

end Memory

namespace Machine

variable {m : Machine} {x : UInt8}

theorem transferCount_eq_three {c : Config} {y : UInt8} :
    c.transferCount y = 3 ↔ y = if c.inclusive then 2 else 3 := by
  unfold Config.transferCount
  cases c.inclusive <;> simp [← UInt8.toNat_inj]

/-- From `m` to `n` the number in `Vx` has been written out: the three bytes from the index on are
digits and make up the number; no other byte has changed, and nothing else but the counter.  Where
the index names the first of them again, whatever else has happened, a load of three registers
makes the number out of them. -/
structure WrittenOut (m : Machine) (x : UInt8) (n : Machine) : Prop where
  digit : ∀ a ∈ Memory.places m.index.toNat 3, n.memory.read a ≤ 9
  value : 100 * (n.memory.read (m.index.toNat % 4096)).toNat +
    10 * (n.memory.read ((m.index.toNat + 1) % 4096)).toNat +
      (n.memory.read ((m.index.toNat + 2) % 4096)).toNat = (m.val x).toNat
  kept : ∀ a : Fin 4096, a ∉ Memory.places m.index.toNat 3 → n.memory.read a = m.memory.read a
  rest : n = { m with memory := n.memory, pc := n.pc }
  back : ∀ k : Machine, k.memory = n.memory → m.SameWindow k →
    ∀ y, m.config.transferCount y = 3 → k.Yields (.loadRegs y) fun l =>
      100 * (l.val 0).toNat + 10 * (l.val 1).toNat + (l.val 2).toNat = (m.val x).toNat

/-- A load of three registers brings in the three bytes from the index on. -/
theorem val_restored_three (k : Machine) :
    (k.restored 3).val 0 = k.memory.read k.index.toNat ∧
      (k.restored 3).val 1 = k.memory.read (k.index.toNat + 1) ∧
        (k.restored 3).val 2 = k.memory.read (k.index.toNat + 2) :=
  ⟨k.get_restored (j := slotOf 0) (by decide), k.get_restored (j := slotOf 1) (by decide),
    k.get_restored (j := slotOf 2) (by decide)⟩

theorem writtenOut_effect (pc : UInt16) :
    m.WrittenOut x ({ m with pc }.effect (.storeDecimal x)) where
  digit _ member := m.memory.read_written_le (m.val x) member
  value := by
    show 100 * (Memory.read _ _).toNat + 10 * (Memory.read _ _).toNat + (Memory.read _ _).toNat = _
    rw [Memory.read_congr _ (Nat.mod_mod _ _), Memory.read_congr _ (Nat.mod_mod _ _),
      Memory.read_congr _ (Nat.mod_mod _ _)]
    exact m.memory.value_written (m.val x) rfl
  kept _ outside := Memory.read_writeBlock_of_not_mem _ (length_decimalDigits_le _) outside
  rest := rfl
  back k memory window y three := by
    have inside : y < 16 := by
      rw [transferCount_eq_three.1 three]
      split <;> decide
    have counts : k.config.transferCount y = 3 := (window.transferCount_eq y).trans three
    obtain ⟨first, second, third⟩ := k.val_restored_three
    -- The load may write over `Vx`, but the digits are those of what it held before.
    have held : k.memory = m.memory.writeBlock m.index.toNat (decimalDigits (m.val x)) := memory
    refine yields_of_unrefused inside (fun _ => rfl) fun pc => ?_
    show 100 * ((k.restored (k.config.transferCount y)).val 0).toNat +
      10 * ((k.restored (k.config.transferCount y)).val 1).toNat +
        ((k.restored (k.config.transferCount y)).val 2).toNat = _
    rw [counts, first, second, third, held]
    exact m.memory.value_written (m.val x) window.index

/-- Writing a register out moves neither the index nor what a transfer counts. -/
theorem WrittenOut.window {n : Machine} (written : m.WrittenOut x n) : m.SameWindow n := by
  rw [written.rest]
  exact ⟨rfl, rfl⟩

/-- **A byte written out in decimal can be read in again.**  On any machine, wherever its index is:
the three places from the index on are different ones, and the instruction that writes `Vx` out
succeeds and leaves there the digits of what `Vx` holds, each at most nine, and changes no other
byte, no register and not the index.  A load of exactly three registers from the same place makes
the number out of `V0`, `V1` and `V2`, also where `Vx` is one of them.  It is the load up to `V3`,
or up to `V2` if that is included. -/
theorem decimal_reversible (m : Machine) (inside : x < 16) :
    (Memory.places m.index.toNat 3).Nodup ∧ m.Yields (.storeDecimal x) (m.WrittenOut x) ∧
      ∀ y, m.config.transferCount y = 3 ↔ y = if m.config.inclusive then 2 else 3 := by
  refine ⟨Memory.places_nodup _ (by decide), ?_, fun y => transferCount_eq_three⟩
  exact yields_of_unrefused inside (fun _ => rfl) writtenOut_effect

/-- A machine about to write the 234 in `V1` out around the end of memory. -/
def aroundEnd : Machine :=
  (boot { inclusive := true } 0 (some [0x61, 0xEA, 0xAF, 0xFF, 0xF1, 0x33])).machine.after
    [.frame 2]

/-- The digits lie in the last byte and the first two, and a load over `V1` makes 234 again. -/
theorem aroundEnd_writtenOut :
    (1 : UInt8) < 16 ∧ aroundEnd.step.result = .ok () ∧
      100 * (aroundEnd.step.machine.memory.read 0xFFF).toNat +
        10 * (aroundEnd.step.machine.memory.read 0x000).toNat +
          (aroundEnd.step.machine.memory.read 0x001).toNat = 234 ∧
      ∃ l, aroundEnd.step.machine.execute (.loadRegs 2) = .ok () l ∧
        100 * (l.val 0).toNat + 10 * (l.val 1).toNat + (l.val 2).toNat = 234 := by
  have one : (1 : UInt8) < 16 := by decide
  have decoded : decode (aroundEnd.memory.word aroundEnd.pc.toNat) = .storeDecimal 1 := by
    decide +kernel
  have index : aroundEnd.index.toNat = 0xFFF := by decide +kernel
  have held : (aroundEnd.val 1).toNat = 234 := by decide +kernel
  have inclusive : aroundEnd.config.inclusive = true := by decide +kernel
  obtain ⟨-, out, three⟩ := decimal_reversible aroundEnd one
  obtain ⟨ok, written⟩ := out.stepped (Instruction.decode_eq_iff.1 decoded)
  -- What the step left is opaque from here on: nothing about it is to be evaluated.
  generalize aroundEnd.step.machine = n at written ⊢
  have upTo : aroundEnd.config.transferCount 2 = 3 := by
    rw [three 2, inclusive]
    rfl
  have value := written.value
  rw [index, held] at value
  obtain ⟨l, executed, back⟩ := (written.back n rfl written.window 2 upTo).executed
  exact ⟨one, ok, value, l, executed, back.trans held⟩

end Machine

end Chip8
