/-
# Chip8.Proofs.Alike -- the high bits of the index and the dead slots are never seen

Every use of the index takes it modulo 4096, and sums with it keep that remainder, also
where they wrap at 65536, which is a multiple.  A slot at or above the depth of the stack
is written before it is read again.  So two machines that differ in nothing else go on
alike for ever:

* `Alike`: equal but for a multiple of 4096 in the index and for dead slots;
* `effect_alike`, `step_alike`: one instruction and one step keep it, by cases on the
  instruction; only those that use the index or the stack need an argument;
* `alike_performAll`: so does every list of calls, with equal answers and reports.
-/
import Chip8.Proofs.Effect
import Chip8.Proofs.Lockstep

namespace Chip8

set_option autoImplicit false

/-! ## Stacks -/

namespace CallStack

/-- The same depth, sixteen at most, and the same live slots. -/
structure Alike (s t : CallStack) : Prop where
  fits : s.depth ≤ 16
  depth : s.depth = t.depth
  slot : ∀ i : Fin 16, i.val < s.depth → Table.get s.slots i = Table.get t.slots i

namespace Alike

variable {s t : CallStack}

theorem rfl_of_fits (fits : s.depth ≤ 16) : s.Alike s := ⟨fits, rfl, fun _ _ => rfl⟩

theorem pushed (alike : s.Alike t) (room : s.depth < 16) (next : UInt16) :
    (s.pushed next).Alike (t.pushed next) where
  fits := room
  depth := congrArg (· + 1) alike.depth
  slot i inside := by
    simp only [CallStack.pushed, Table.get_set, ← alike.depth]
    split
    · rfl
    · rename_i other
      refine alike.slot i ?_
      have apart : i.val ≠ s.depth := by
        rintro same
        refine other (Fin.ext ?_)
        simp [same, Nat.mod_eq_of_lt room]
      simp only [CallStack.pushed] at inside
      omega

theorem popped (alike : s.Alike t) : s.popped.Alike t.popped where
  fits := Nat.le_trans (Nat.sub_le _ _) alike.fits
  depth := congrArg (· - 1) alike.depth
  slot i inside := alike.slot i (Nat.lt_of_lt_of_le inside (Nat.sub_le _ _))

theorem top (alike : s.Alike t) (nonempty : s.depth ≠ 0) : s.top = t.top := by
  have fits := alike.fits
  have below : (s.depth - 1) % 16 < s.depth := by omega
  rw [CallStack.top, CallStack.top, ← alike.depth]
  exact alike.slot _ below

end Alike

end CallStack

/-! ## Machines -/

namespace Machine

/-- Equal but for a multiple of 4096 in the index and for dead stack slots. -/
structure Alike (m n : Machine) : Prop where
  v : m.v = n.v
  index : m.index.toNat % 4096 = n.index.toNat % 4096
  pc : m.pc = n.pc
  stack : m.stack.Alike n.stack
  delay : m.delay = n.delay
  sound : m.sound = n.sound
  memory : m.memory = n.memory
  screen : m.screen = n.screen
  keypad : m.keypad = n.keypad
  random : m.random = n.random
  config : m.config = n.config

namespace Alike

variable {m n : Machine}

/-- The other machine, seen as this one with its index and its stack replaced. -/
theorem eq_with (alike : m.Alike n) : n = { m with index := n.index, stack := n.stack } := by
  obtain ⟨v, -, pc, -, delay, sound, memory, screen, keypad, random, config⟩ := alike
  cases n
  simp_all

theorem of_with {index : UInt16} {stack : CallStack}
    (low : m.index.toNat % 4096 = index.toNat % 4096) (live : m.stack.Alike stack) :
    m.Alike { m with index, stack } :=
  ⟨rfl, low, rfl, live, rfl, rfl, rfl, rfl, rfl, rfl, rfl⟩

end Alike

variable {m : Machine} {index : UInt16} {stack : CallStack}

theorem add_low {i j : UInt16} (low : i.toNat % 4096 = j.toNat % 4096) (k : UInt16) :
    (i + k).toNat % 4096 = (j + k).toNat % 4096 := by
  rw [UInt16.toNat_add, UInt16.toNat_add]
  omega

theorem effect_alike {i : Instruction} (low : m.index.toNat % 4096 = index.toNat % 4096)
    (live : m.stack.Alike stack) (runs : m.refusal i = none) :
    (m.effect i).Alike ({ m with index, stack }.effect i) := by
  cases i with
  | ret =>
      have top := live.top (depth_ne_zero_of_ret runs)
      exact { Alike.of_with low live with pc := top, stack := live.popped }
  | call a => exact .of_with low (live.pushed (depth_lt_of_call runs) m.pc)
  | waitKey x =>
      simp only [effect]
      split <;> exact .of_with low live
  | loadIndex a => exact .of_with rfl live
  | loadGlyph x => exact .of_with rfl live
  | addIndex x => exact .of_with (add_low low _) live
  | draw x y rows =>
      have sprite := m.memory.block_congr low rows.toNat
      simp only [effect, covered, sprite]
      exact .of_with low live
  | storeDecimal x =>
      have written := m.memory.writeBlock_congr low
      simp only [effect, written]
      exact .of_with low live
  | storeRegs x =>
      have written := m.memory.writeBlock_congr low
      simp only [effect, stored, written]
      exact .of_with (add_low low _) live
  | loadRegs x =>
      have read := m.memory.read_add_congr low
      simp only [effect, restored, loaded, read]
      exact .of_with (add_low low _) live
  | _ =>
      simp only [effect, skipIf_eq]
      exact .of_with low live

theorem stackLeft_alike {m n : Machine} (live : m.stack.Alike n.stack) (i : Instruction) :
    (m.stackLeft i).Alike (n.stackLeft i) := by
  have depth := live.depth
  simp only [stackLeft, ← depth]
  split
  · exact live.popped
  · exact live

theorem step_alike (low : m.index.toNat % 4096 = index.toNat % 4096)
    (live : m.stack.Alike stack) : m.step.Rel Alike { m with index, stack }.step := by
  let n : Machine := { m with index, stack }
  have same : m.passed.fault? m.next = n.passed.fault? n.next :=
    fault?_congr (m := m.passed) (n := n.passed) rfl live.depth m.next
  have left : (m.stackLeft m.next).Alike (n.stackLeft n.next) := stackLeft_alike live m.next
  exact step_rel (n := n) same rfl (.of_with low left)
    fun sound => effect_alike (m := m.passed) low live (runs_of_fault? sound)

theorem lockstep_alike : Lockstep Alike where
  step _ alike := by
    rw [alike.eq_with]
    exact step_alike alike.index alike.stack
  countDown alike := by
    rw [alike.eq_with]
    exact .of_with alike.index alike.stack
  isSounding alike := by
    unfold isSounding
    rw [alike.sound]
  press := by
    rintro m n code _ down rfl alike
    rw [alike.eq_with]
    exact .of_with alike.index alike.stack
  reset alike := by
    rw [alike.eq_with]
    exact .of_with rfl (.rfl_of_fits (Nat.zero_le _))
  load rom alike := by
    rw [alike.eq_with]
    exact load_rel rom (.of_with alike.index alike.stack) (.of_with alike.index alike.stack)

/-- **The high bits of the index and the dead slots are never seen.**  Two machines that
differ in nothing else answer every call of a common list alike, report the same, and
differ in nothing else after each. -/
theorem alike_performAll {m n : Machine} (alike : m.Alike n) (ops : List Operation) :
    List.Forall₂ (Reply.Rel Alike) (m.performAll ops) (n.performAll ops) :=
  lockstep_alike.performAll ops alike

/-! ## Poles -/

/-- A machine in a subroutine, its index at the last address. -/
def nested : Machine :=
  { fresh (.start 7) {} with index := 0x0FFF, stack := ⟨Vector.replicate 16 0x300, 1⟩ }

/-- The same with all bits of the index set and other addresses in its fifteen dead slots. -/
def smudged : Machine :=
  { nested with
    index := 0xFFFF
    stack := ⟨Table.set (Vector.replicate 16 0x999) (slotOf 0) 0x300, 1⟩ }

theorem nested_alike_smudged : nested.Alike smudged := by
  refine .of_with (by decide) ⟨by decide, rfl, fun i inside => ?_⟩
  have first : i = slotOf 0 := Fin.ext (Nat.lt_one_iff.1 inside)
  rw [first]
  rfl

/-- They go on alike through steps, a frame, a key, a load and a reset. -/
theorem nested_performAll_smudged :
    nested.Alike smudged ∧
      List.Forall₂ (Reply.Rel Alike)
        (nested.performAll
          [.load [0xF1, 0x55, 0x00, 0xEE], .step, .frame 3, .press 49 true, .reset, .step])
        (smudged.performAll
          [.load [0xF1, 0x55, 0x00, 0xEE], .step, .frame 3, .press 49 true, .reset, .step]) :=
  ⟨nested_alike_smudged, alike_performAll nested_alike_smudged _⟩

end Machine

end Chip8
