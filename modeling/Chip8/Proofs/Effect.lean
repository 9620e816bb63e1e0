/-
# Chip8.Proofs.Effect -- what an instruction does once its checks are out of the way

`Machine.execute` checks every register number and every sum on its way, and what it did
before a check that fails stays done.  Decoded operands are in range, so on a machine whose
stack has its sixteen slots only two checks can fail, and both come before anything is
written:

* lemmas named `_run` open the actions an instruction is made of, one lemma each; the
  transfers are loops, whose states `stored` and `restored` go through one by one
  (`Action.forM_range_run`);
* `refusal` names the two ways an instruction can fail: a return with no call to return
  from, and a call with every slot in use;
* `effect` is the machine it leaves otherwise;
* `execute_eq`: `execute` is exactly these two, so no later proof opens its checks again;
* `execute_total`, `step_total`: the same on any machine, also one whose stack is deeper than
  its slots are many, where a return gives up a slot and then meets a bound;
* `effect_parts`: each component of the effect by its own rule, so no later proof opens all
  instructions to speak of one component;
* `step_of_refusal`, `step_of_runs`: one step, with its log;
* `load_eq`: a load copies the program, or does nothing if it is too large.
-/
import Chip8.Machine.Operation

namespace Chip8

set_option autoImplicit false

/-! ## Numbers of registers and of stack slots -/

theorem mod_sixteen_lt (a : Nat) : a % 16 < 16 := Nat.mod_lt a (Nat.succ_pos 15)

/-- The position a number names in a table of sixteen; from sixteen on they go around. -/
def slotOf (a : Nat) : Fin 16 := ⟨a % 16, mod_sixteen_lt a⟩

@[simp] theorem val_slotOf (a : Nat) : (slotOf a).val = a % 16 := rfl

/-! ## Checks and loops -/

section

variable {α : Type}

theorem entry_eq (table : Vector α 16) {i : Nat} (inside : i < 16) :
    entry table i = .ok (Table.get table (slotOf i)) := by
  simp only [entry, dif_pos inside, Table.get, val_slotOf, Nat.mod_eq_of_lt inside]

theorem entry_of_outside (table : Vector α 16) {i : Nat} (outside : ¬ i < 16) :
    entry table i = .error (.outOfRange 16 i) := dif_neg outside

theorem withEntry_eq (table : Vector α 16) {i : Nat} (inside : i < 16) (a : α) :
    withEntry table i a = .ok (Table.set table (slotOf i) a) := by
  simp only [withEntry, dif_pos inside, Table.set, val_slotOf, Nat.mod_eq_of_lt inside]

/-- A loop goes through its states one after another, if each of its rounds does. -/
theorem Action.forM_range_run {σ : Type} {round : Nat → Action σ Unit} {states : Nat → σ} {n : Nat}
    (each : ∀ j < n, (round j).run (states j) = .ok () (states (j + 1))) :
    ((List.range n).forM round).run (states 0) = .ok () (states n) := by
  induction n with
  | zero => rfl
  | succ n ih =>
      have earlier := ih fun j inside => each j (Nat.lt_succ_of_lt inside)
      have last := each n (Nat.lt_succ_self n)
      rw [List.range_succ]
      simp only [List.forM_eq_forM, List.forM_append, EStateM.run_bind, List.forM_cons,
        List.forM_nil, EStateM.run_pure] at earlier ⊢
      simp only [earlier, last]

end

/-! ## Memory

Only the remainder of an address counts. -/

namespace Memory

variable {a b : Nat}

theorem place_congr (same : a % 4096 = b % 4096) : place a = place b := by
  simp only [place, same]

theorem read_congr (m : Memory) (same : a % 4096 = b % 4096) : m.read a = m.read b := by
  simp only [read, place_congr same]

theorem write_congr (m : Memory) (same : a % 4096 = b % 4096) (byte : UInt8) :
    m.write a byte = m.write b byte := by
  simp only [write, place_congr same]

theorem read_add_congr (m : Memory) (same : a % 4096 = b % 4096) (j : Nat) :
    m.read (a + j) = m.read (b + j) :=
  m.read_congr (by rw [Nat.add_mod, same, ← Nat.add_mod])

theorem block_congr (m : Memory) (same : a % 4096 = b % 4096) (n : Nat) :
    m.block a n = m.block b n := by
  simp only [block, m.read_add_congr same]

theorem writeBlock_congr (m : Memory) (same : a % 4096 = b % 4096) (bytes : List UInt8) :
    m.writeBlock a bytes = m.writeBlock b bytes := by
  induction bytes generalizing m a b with
  | nil => rfl
  | cons byte bytes ih =>
      rw [writeBlock, writeBlock, m.write_congr same]
      exact ih _ (by rw [Nat.add_mod, same, ← Nat.add_mod])

theorem writeBlock_concat (m : Memory) (a : Nat) (bytes : List UInt8) (byte : UInt8) :
    m.writeBlock a (bytes ++ [byte]) = (m.writeBlock a bytes).write (a + bytes.length) byte := by
  induction bytes generalizing m a with
  | nil => rfl
  | cons first bytes ih =>
      rw [List.cons_append, writeBlock, ih, List.length_cons, Nat.add_assoc, Nat.add_comm 1]
      rfl

theorem load_run (m : Memory) (rom : List UInt8) :
    (load rom).run m =
      if rom.length ≤ maxRomSize then .ok () (m.writeBlock programStart rom)
      else .error (.romTooLarge rom.length) m := by
  simp only [load]
  by_cases short : rom.length ≤ maxRomSize
  · rw [if_neg (Nat.not_lt.2 short), if_pos short]
    rfl
  · rw [if_pos (Nat.lt_of_not_le short), if_neg short]
    rfl

end Memory

/-! ## The call stack -/

namespace CallStack

/-- The latest return address. -/
def top (s : CallStack) : UInt16 := Table.get s.slots (slotOf (s.depth - 1))

def pushed (s : CallStack) (next : UInt16) : CallStack :=
  ⟨Table.set s.slots (slotOf s.depth) next, s.depth + 1⟩

def popped (s : CallStack) : CallStack := { s with depth := s.depth - 1 }

theorem push_run (s : CallStack) (next : UInt16) :
    (push next).run s =
      if s.depth < 16 then .ok () (s.pushed next) else .error (.stackOverflow next) s := by
  simp only [push, EStateM.run_bind, EStateM.run_get]
  by_cases room : s.depth < 16
  · rw [if_neg (Nat.not_le.2 room), if_pos room]
    simp only [withEntry_eq _ room, EStateM.run_bind, Action.run_check_ok, EStateM.run_set,
      EStateM.run_modify, pushed]
  · rw [if_pos (Nat.not_lt.1 room), if_neg room]
    rfl

/-- At a depth that no stack has, the slot of the latest address is past the end. -/
theorem pop_run (s : CallStack) (next : UInt16) :
    (pop next).run s =
      if s.depth = 0 then .error (.stackUnderflow next) s
      else if s.depth ≤ 16 then .ok s.top s.popped
      else .error (.outOfRange 16 (s.depth - 1)) s.popped := by
  simp only [pop, EStateM.run_bind, EStateM.run_get]
  by_cases empty : s.depth = 0
  · rw [if_pos empty, if_pos empty]
    rfl
  · rw [if_neg empty, if_neg empty]
    simp only [EStateM.run_bind, EStateM.run_modify, EStateM.run_get]
    by_cases fits : s.depth ≤ 16
    · have inside : s.depth - 1 < 16 := by omega
      simp only [entry_eq _ inside, if_pos fits, Action.run_check_ok, top, popped]
    · have outside : ¬ s.depth - 1 < 16 := by omega
      simp only [entry_of_outside _ outside, if_neg fits, Action.run_check_error, popped]

end CallStack

namespace Machine

/-! ## Registers -/

/-- The register a number names. -/
def val (m : Machine) (x : UInt8) : UInt8 := Table.get m.v (slotOf x.toNat)

def put (m : Machine) (x b : UInt8) : Machine :=
  { m with v := Table.set m.v (slotOf x.toNat) b }

theorem reg_run (m : Machine) {x : UInt8} (inside : x < 16) :
    (reg x).run m = .ok (m.val x) m := by
  have bound : x.toNat < 16 := inside
  simp only [reg, EStateM.run_bind, EStateM.run_get, entry_eq _ bound, Action.run_check_ok, val]

theorem setReg_run (m : Machine) {x : UInt8} (b : UInt8) (inside : x < 16) :
    (setReg x b).run m = .ok () (m.put x b) := by
  have bound : x.toNat < 16 := inside
  simp only [setReg, EStateM.run_bind, EStateM.run_get, withEntry_eq _ bound,
    Action.run_check_ok, EStateM.run_set, put]

theorem setFlagged_run (m : Machine) {x : UInt8} (b : UInt8) (flag : Bool) (inside : x < 16) :
    (setFlagged x b flag).run m = .ok () ((m.setFlag flag).put x b) := by
  simp only [setFlagged, EStateM.run_bind, EStateM.run_modify, setReg_run _ b inside]

theorem onStack_run {α : Type} (m : Machine) (a : Action CallStack α) :
    (onStack a).run m =
      match a.run m.stack with
      | .ok x stack => .ok x { m with stack }
      | .error fault stack => .error fault { m with stack } := rfl

/-! ## Transfers between registers and memory -/

theorem transferCount_le (c : Config) {x : UInt8} (inside : x < 16) :
    c.transferCount x ≤ 16 := by
  have bound : x.toNat < 16 := inside
  unfold Config.transferCount
  split <;> omega

/-- The registers after the first `n` of them came from memory at the index. -/
def loaded (m : Machine) (n : Nat) : Vector UInt8 16 := Vector.ofFn fun j =>
  if j < n then m.memory.read (m.index.toNat + j) else Table.get m.v j

/-- The machine after its first `count` registers went to memory at the index. -/
def stored (m : Machine) (count : Nat) : Machine :=
  { m with
    memory := m.memory.writeBlock m.index.toNat (m.v.toList.take count)
    index := m.index + UInt16.ofNat count }

/-- The machine after its first `count` registers came from memory at the index. -/
def restored (m : Machine) (count : Nat) : Machine :=
  { m with v := m.loaded count, index := m.index + UInt16.ofNat count }

theorem stored_zero (m : Machine) : m.stored 0 = m := by
  have index : m.index + UInt16.ofNat 0 = m.index := UInt16.add_zero _
  rw [stored, index]
  rfl

theorem restored_zero (m : Machine) : m.restored 0 = m := by
  have index : m.index + UInt16.ofNat 0 = m.index := UInt16.add_zero _
  have registers : m.loaded 0 = m.v := by
    apply Table.ext_get
    intro j
    rw [loaded, Table.get_ofFn, if_neg (Nat.not_lt_zero _)]
  rw [restored, index, registers]

/-- Moving the index on by one more. -/
theorem index_succ (index : UInt16) (n : Nat) :
    index + UInt16.ofNat n + 1 = index + UInt16.ofNat (n + 1) := by
  rw [UInt16.ofNat_add, UInt16.add_assoc]
  rfl

theorem index_add_toNat (index : UInt16) (n : Nat) :
    (index + UInt16.ofNat n).toNat = (index.toNat + n) % 65536 := by
  rw [UInt16.toNat_add, UInt16.toNat_ofNat', Nat.add_mod_mod]

/-- The wrap at 65536 is a multiple of 4096. -/
theorem index_add_mod (index : UInt16) (n : Nat) :
    (index + UInt16.ofNat n).toNat % 4096 = (index.toNat + n) % 4096 := by
  rw [index_add_toNat]
  omega

/-- One more register goes to memory behind those before it. -/
theorem storeReg_run (m : Machine) {j : Nat} (inside : j < 16) :
    (storeReg j).run (m.stored j) = .ok () (m.stored (j + 1)) := by
  have more : j < m.v.toList.length := by rw [Vector.length_toList]; exact inside
  have length : (m.v.toList.take j).length = j := List.length_take_of_le (Nat.le_of_lt more)
  have block : m.v.toList.take (j + 1) = m.v.toList.take j ++ [Table.get m.v (slotOf j)] := by
    simp only [List.take_succ_eq_append_getElem more, Vector.getElem_toList, Table.get, val_slotOf,
      Nat.mod_eq_of_lt inside]
  have written : m.memory.writeBlock m.index.toNat (m.v.toList.take (j + 1)) =
      (m.memory.writeBlock m.index.toNat (m.v.toList.take j)).write (m.index.toNat + j)
        (Table.get m.v (slotOf j)) := by
    rw [block, Memory.writeBlock_concat, length]
  simp only [storeReg, EStateM.run_bind, EStateM.run_get, stored, entry_eq _ inside,
    Action.run_check_ok, EStateM.run_set, EStateM.run_modify, index_succ, written,
    Memory.write_congr _ (index_add_mod m.index j)]

/-- One more register comes from memory behind those before it. -/
theorem loadReg_run (m : Machine) {j : Nat} (inside : j < 16) :
    (loadReg j).run (m.restored j) = .ok () (m.restored (j + 1)) := by
  have more : Table.set (m.loaded j) (slotOf j) (m.memory.read (m.index.toNat + j)) =
      m.loaded (j + 1) := by
    refine Table.ext_get fun k => ?_
    have here : slotOf j = k ↔ j = k := by
      rw [Fin.ext_iff, val_slotOf, Nat.mod_eq_of_lt inside]
    simp only [loaded, Table.get_set, Table.get_ofFn, here]
    grind
  simp only [loadReg, EStateM.run_bind, EStateM.run_get, restored, withEntry_eq _ inside,
    Action.run_check_ok, EStateM.run_set, EStateM.run_modify, index_succ,
    Memory.read_congr _ (index_add_mod m.index j), more]

/-- Storing one register after another writes them as one block. -/
theorem storeRegs_run (m : Machine) {count : Nat} (few : count ≤ 16) :
    ((List.range count).forM storeReg).run m = .ok () (m.stored count) := by
  have rounds := @Action.forM_range_run _ storeReg m.stored count
    fun j inside => m.storeReg_run (Nat.lt_of_lt_of_le inside few)
  rwa [stored_zero] at rounds

theorem loadRegs_run (m : Machine) {count : Nat} (few : count ≤ 16) :
    ((List.range count).forM loadReg).run m = .ok () (m.restored count) := by
  have rounds := @Action.forM_range_run _ loadReg m.restored count
    fun j inside => m.loadReg_run (Nat.lt_of_lt_of_le inside few)
  rwa [restored_zero] at rounds

/-! ## Effect and refusal -/

/-- The positions a sprite at the index covers when its corner is where two registers say. -/
def covered (m : Machine) (x y rows : UInt8) : List (Nat × Nat) :=
  Sprite.footprint (m.val x).toNat (m.val y).toNat (m.memory.block m.index.toNat rows.toNat)

/-- Why an instruction cannot be executed, if it cannot. -/
def refusal (m : Machine) : Instruction → Option Fault
  | .ret => if m.stack.depth = 0 then some (.stackUnderflow m.pc) else none
  | .call _ => if m.stack.depth < 16 then none else some (.stackOverflow m.pc)
  | _ => none

/-- Whether an instruction is refused, and how, only the counter and the depth of the stack
decide. -/
theorem refusal_congr {m n : Machine} (pc : m.pc = n.pc) (depth : m.stack.depth = n.stack.depth)
    (i : Instruction) : m.refusal i = n.refusal i := by
  cases i with
  | ret | call _ => simp only [refusal, pc, depth]
  | _ => rfl

theorem depth_lt_of_call {m : Machine} {a : UInt16} (runs : m.refusal (.call a) = none) :
    m.stack.depth < 16 := by
  simp only [refusal] at runs
  split at runs
  · assumption
  · cases runs

theorem depth_ne_zero_of_ret {m : Machine} (runs : m.refusal .ret = none) :
    m.stack.depth ≠ 0 := by
  simp only [refusal] at runs
  split at runs
  · cases runs
  · assumption

/-- What an instruction that can be executed does. -/
def effect (m : Machine) : Instruction → Machine
  | .clear => { m with screen := .blank }
  | .ret => { m with pc := m.stack.top, stack := m.stack.popped }
  | .jump a => { m with pc := a }
  | .call a => { m with pc := a, stack := m.stack.pushed m.pc }
  | .skipEqByte x k => m.skipIf (m.val x == k)
  | .skipNeByte x k => m.skipIf (m.val x != k)
  | .skipEqReg x y => m.skipIf (m.val x == m.val y)
  | .skipNeReg x y => m.skipIf (m.val x != m.val y)
  | .loadByte x k => m.put x k
  | .addByte x k => m.put x (m.val x + k)
  | .copy x y => m.put x (m.val y)
  | .or x y => m.put x (m.val x ||| m.val y)
  | .and x y => m.put x (m.val x &&& m.val y)
  | .xor x y => m.put x (m.val x ^^^ m.val y)
  | .add x y =>
      (m.setFlag (256 ≤ (m.val x).toNat + (m.val y).toNat)).put x (m.val x + m.val y)
  | .sub x y => (m.setFlag (m.val y < m.val x)).put x (m.val x - m.val y)
  | .shiftRight x => (m.setFlag (m.val x % 2 == 1)).put x (m.val x / 2)
  | .subFrom x y => (m.setFlag (m.val x < m.val y)).put x (m.val y - m.val x)
  | .shiftLeft x => (m.setFlag (128 ≤ m.val x)).put x (m.val x * 2)
  | .loadIndex a => { m with index := a }
  | .jumpOffset a => { m with pc := UInt16.ofNat (a.toNat + (m.val 0).toNat) % 4096 }
  | .random x k =>
      { m with random := m.random.next.2 }.put x (m.random.next.1.toUInt8 &&& k)
  | .draw x y rows =>
      { m with screen := (m.screen.flip (m.covered x y rows)).1 }.setFlag
        (m.screen.flip (m.covered x y rows)).2
  | .skipHeld x => m.skipIf (m.keypad.isHeld (m.val x))
  | .skipNotHeld x => m.skipIf (!m.keypad.isHeld (m.val x))
  | .readDelay x => m.put x m.delay
  | .waitKey x =>
      match m.keypad.first?, m.config.keyWait with
      | some key, _ => m.put x key
      | none, .block => { m with pc := (m.pc - 2) % 4096 }
      | none, .poll => m
  | .setDelay x => { m with delay := m.val x }
  | .setSound x => { m with sound := m.val x }
  | .addIndex x => { m with index := m.index + (m.val x).toUInt16 }
  | .loadGlyph x => { m with index := UInt16.ofNat ((m.val x).toNat * Memory.glyphSize) }
  | .storeDecimal x =>
      { m with memory := m.memory.writeBlock m.index.toNat (decimalDigits (m.val x)) }
  | .storeRegs x => m.stored (m.config.transferCount x)
  | .loadRegs x => m.restored (m.config.transferCount x)
  | .unknown _ => m

/-- The outcome of an instruction that is either refused, and then writes nothing, or has its
effect. -/
def outcome (m : Machine) (i : Instruction) : EStateM.Result Fault Machine Unit :=
  match m.refusal i with
  | some fault => .error fault m
  | none => .ok () (m.effect i)

theorem execute_ret (m : Machine) :
    m.execute .ret =
      if m.stack.depth = 0 then .error (.stackUnderflow m.pc) m
      else if m.stack.depth ≤ 16 then .ok () (m.effect .ret)
      else .error (.outOfRange 16 (m.stack.depth - 1)) { m with stack := m.stack.popped } := by
  simp only [execute, carryOut, EStateM.run_bind, EStateM.run_get, onStack_run,
    m.stack.pop_run m.pc]
  by_cases empty : m.stack.depth = 0
  · simp only [if_pos empty]
  · by_cases fits : m.stack.depth ≤ 16
    · simp only [if_neg empty, if_pos fits]
      rfl
    · simp only [if_neg empty, if_neg fits]

theorem execute_call (m : Machine) (a : UInt16) :
    m.execute (.call a) =
      if m.stack.depth < 16 then .ok () (m.effect (.call a))
      else .error (.stackOverflow m.pc) m := by
  simp only [execute, carryOut, EStateM.run_bind, EStateM.run_get, onStack_run,
    m.stack.push_run m.pc]
  by_cases room : m.stack.depth < 16
  · simp only [if_pos room]
    rfl
  · simp only [if_neg room]

/-- **No check fails.**  On operands an opcode can spell, `execute` has its effect unless
it is refused. -/
theorem execute_eq (m : Machine) {i : Instruction} (fits : i = .ret → m.stack.depth ≤ 16)
    (range : i.InRange) : m.execute i = m.outcome i := by
  have zero : (0 : UInt8) < 16 := by decide
  cases i with
  | clear | jump _ | loadIndex _ | unknown _ => rfl
  | ret =>
      rw [execute_ret, outcome, refusal, if_pos (fits rfl)]
      split <;> rfl
  | call a =>
      rw [execute_call, outcome, refusal]
      split <;> rfl
  | jumpOffset a =>
      have low : a.toNat < 4096 := range
      have byte := (m.val 0).toNat_lt
      have sum : ¬ 65536 ≤ a.toNat + (m.val 0).toNat := by omega
      simp only [execute, carryOut, EStateM.run_bind, m.reg_run zero, if_neg sum]
      rfl
  | loadGlyph x =>
      have byte := (m.val x).toNat_lt
      have product : ¬ 65536 ≤ (m.val x).toNat * Memory.glyphSize := by
        unfold Memory.glyphSize; omega
      simp only [execute, carryOut, EStateM.run_bind, m.reg_run range, if_neg product]
      rfl
  | skipEqReg x y | skipNeReg x y | copy x y | or x y | and x y | xor x y | add x y | sub x y
  | subFrom x y =>
      obtain ⟨hx, hy⟩ := range
      simp only [execute, carryOut, EStateM.run_bind, m.reg_run hx, m.reg_run hy, setReg_run _ _ hx,
        setFlagged_run _ _ _ hx]
      rfl
  | draw x y rows =>
      obtain ⟨hx, hy, -⟩ := range
      simp only [execute, carryOut, EStateM.run_bind, m.reg_run hx, m.reg_run hy]
      rfl
  | waitKey x =>
      simp only [execute, carryOut, EStateM.run_bind, EStateM.run_get, outcome, refusal, effect]
      cases m.keypad.first? with
      | some key => exact m.setReg_run key range
      | none => cases m.config.keyWait <;> rfl
  | storeRegs x =>
      simp only [execute, carryOut, EStateM.run_bind, EStateM.run_get,
        m.storeRegs_run (transferCount_le m.config range)]
      rfl
  | loadRegs x =>
      simp only [execute, carryOut, EStateM.run_bind, EStateM.run_get,
        m.loadRegs_run (transferCount_le m.config range)]
      rfl
  | random x k =>
      simp only [execute, carryOut, EStateM.run_bind, EStateM.run_get, EStateM.run_set,
        setReg_run _ _ range]
      rfl
  | _ x =>
      have hx : x < 16 := range
      simp only [execute, carryOut, EStateM.run_bind, EStateM.run_get, m.reg_run hx,
        setReg_run _ _ hx, setFlagged_run _ _ _ hx]
      rfl

/-- Why an instruction fails on any machine at all: it is refused, or it is a return at a
depth that no stack has, where the slot it asks for does not exist. -/
def fault? (m : Machine) (i : Instruction) : Option Fault :=
  if i = .ret ∧ 16 < m.stack.depth then some (.outOfRange 16 (m.stack.depth - 1))
  else m.refusal i

theorem fault?_congr {m n : Machine} (pc : m.pc = n.pc) (depth : m.stack.depth = n.stack.depth)
    (i : Instruction) : m.fault? i = n.fault? i := by
  simp only [fault?, depth, refusal_congr pc depth]

theorem fault?_of_fits {m : Machine} (fits : m.stack.depth ≤ 16) (i : Instruction) :
    m.fault? i = m.refusal i :=
  if_neg fun deep => Nat.not_lt.2 fits deep.2

/-- Only a return can meet a bound, and it can also be refused. -/
theorem fault?_of_unrefused {i : Instruction} (runs : ∀ n : Machine, n.refusal i = none)
    (m : Machine) : m.fault? i = none := by
  have other : i ≠ .ret := by
    rintro rfl
    exact absurd (runs (fresh (.start 0) {})) nofun
  rw [fault?, if_neg fun deep => other deep.1, runs]

theorem runs_of_fault? {m : Machine} {i : Instruction} (sound : m.fault? i = none) :
    m.refusal i = none := by
  unfold fault? at sound
  split at sound
  · cases sound
  · exact sound

/-- What a failing instruction leaves in the place of the stack: at a depth that no stack has
a return gives up its slot before it misses the address in it. -/
def stackLeft (m : Machine) (i : Instruction) : CallStack :=
  if i = .ret ∧ 16 < m.stack.depth then m.stack.popped else m.stack

theorem stackLeft_of_fits {m : Machine} (fits : m.stack.depth ≤ 16) (i : Instruction) :
    m.stackLeft i = m.stack :=
  if_neg fun deep => Nat.not_lt.2 fits deep.2

/-- **Every instruction fails or has its effect**, on any machine; where it fails it has at
most given up a slot of the stack. -/
theorem execute_total (m : Machine) {i : Instruction} (range : i.InRange) :
    m.execute i =
      match m.fault? i with
      | some fault => .error fault { m with stack := m.stackLeft i }
      | none => .ok () (m.effect i) := by
  unfold fault? stackLeft
  by_cases deep : i = .ret ∧ 16 < m.stack.depth
  · simp only [if_pos deep]
    obtain ⟨rfl, deep⟩ := deep
    have nonempty : m.stack.depth ≠ 0 := Nat.ne_of_gt (Nat.zero_lt_of_lt deep)
    rw [execute_ret, if_neg nonempty, if_neg (Nat.not_le.2 deep)]
  · simp only [if_neg deep]
    exact m.execute_eq (fun ret => Nat.not_lt.1 fun large => deep ⟨ret, large⟩) range

/-- A failing return may have written: with a depth past the slots it leaves one less. -/
example (m : Machine) :
    { m with stack := ⟨m.stack.slots, 17⟩ }.execute .ret =
      .error (.outOfRange 16 16) { m with stack := ⟨m.stack.slots, 16⟩ } := rfl

/-! ## Components

Every effect is an update of some components.  Each but the registers and the counter has
its own rule, with the instructions that change it. -/

section

variable (m : Machine)

def indexAfter : Instruction → UInt16
  | .loadIndex a => a
  | .addIndex x => m.index + (m.val x).toUInt16
  | .loadGlyph x => UInt16.ofNat ((m.val x).toNat * Memory.glyphSize)
  | .storeRegs x | .loadRegs x => m.index + UInt16.ofNat (m.config.transferCount x)
  | _ => m.index

def stackAfter : Instruction → CallStack
  | .ret => m.stack.popped
  | .call _ => m.stack.pushed m.pc
  | _ => m.stack

def delayAfter : Instruction → UInt8
  | .setDelay x => m.val x
  | _ => m.delay

def soundAfter : Instruction → UInt8
  | .setSound x => m.val x
  | _ => m.sound

def memoryAfter : Instruction → Memory
  | .storeDecimal x => m.memory.writeBlock m.index.toNat (decimalDigits (m.val x))
  | .storeRegs x =>
      m.memory.writeBlock m.index.toNat (m.v.toList.take (m.config.transferCount x))
  | _ => m.memory

def screenAfter : Instruction → Screen
  | .clear => .blank
  | .draw x y rows => (m.screen.flip (m.covered x y rows)).1
  | _ => m.screen

def randomAfter : Instruction → Random.Stream
  | .random _ _ => m.random.next.2
  | _ => m.random

theorem skipIf_eq (c : Bool) :
    m.skipIf c = { m with pc := if c then (m.pc + 2) % 4096 else m.pc } := by
  cases c <;> rfl

/-- The wait for a key changes nothing but its register and the counter. -/
theorem effect_waitKey (x : UInt8) :
    ∃ v pc, m.effect (.waitKey x) = { m with v, pc } ∧
      ∀ j, slotOf x.toNat ≠ j → Table.get v j = Table.get m.v j := by
  simp only [effect]
  split
  · exact ⟨_, _, rfl, fun j other => by rw [Table.get_set, if_neg other]⟩
  · exact ⟨_, _, rfl, fun _ _ => rfl⟩
  · exact ⟨_, _, rfl, fun _ _ => rfl⟩

/-- **What an effect is made of**: each component by its own rule. -/
theorem effect_parts (i : Instruction) :
    m.effect i =
      { m with
        v := (m.effect i).v
        pc := (m.effect i).pc
        index := m.indexAfter i
        stack := m.stackAfter i
        delay := m.delayAfter i
        sound := m.soundAfter i
        memory := m.memoryAfter i
        screen := m.screenAfter i
        random := m.randomAfter i } := by
  cases i with
  | waitKey x =>
      obtain ⟨v, pc, same, -⟩ := m.effect_waitKey x
      rw [same]
      rfl
  | _ =>
      simp only [effect, put, setFlag, skipIf_eq]
      rfl

theorem effect_stack (i : Instruction) : (m.effect i).stack = m.stackAfter i :=
  congrArg stack (m.effect_parts i)

theorem effect_memory (i : Instruction) : (m.effect i).memory = m.memoryAfter i :=
  congrArg memory (m.effect_parts i)

theorem effect_screen (i : Instruction) : (m.effect i).screen = m.screenAfter i :=
  congrArg screen (m.effect_parts i)

theorem effect_random (i : Instruction) : (m.effect i).random = m.randomAfter i :=
  congrArg random (m.effect_parts i)

end

/-! ## One step -/

/-- The opcode is the word at the counter, whether that is an address or not. -/
theorem fetch_eq (m : Machine) : m.fetch = m.memory.word m.pc.toNat := by
  have here : m.here.toNat = m.pc.toNat % 4096 := UInt16.toNat_mod _ _
  simp only [fetch, here, Memory.word, Memory.read, Memory.place, Nat.mod_mod, Nat.mod_add_mod]

/-- The instruction that is next. -/
def next (m : Machine) : Instruction := decode m.fetch

theorem next_inRange (m : Machine) : m.next.InRange := inRange_decode m.fetch

/-- What a step reports, whether it fails or not. -/
def stepLog (m : Machine) : List Log.Record :=
  .fetched m.here m.fetch m.next :: m.passed.notes m.next

/-- The machine that a failing step leaves. -/
def stalled (m : Machine) : Machine := { m with stack := m.stackLeft m.next, pc := m.here }

theorem stalled_of_fits {m : Machine} (fits : m.stack.depth ≤ 16) :
    m.stalled = { m with pc := m.here } := by
  rw [stalled, stackLeft_of_fits fits]

/-- **What a step does**, on any machine: it fails and puts the counter back, or it has the
effect of its instruction. -/
theorem step_total (m : Machine) :
    m.step =
      match m.passed.fault? m.next with
      | some fault => ⟨m.stalled, m.stepLog, .error fault⟩
      | none => ⟨m.passed.effect m.next, m.stepLog, .ok ()⟩ := by
  have executed := m.passed.execute_total m.next_inRange
  simp only [next] at executed
  simp only [step, executed]
  cases outcome : m.passed.fault? (decode m.fetch) <;> simp only [next, outcome] <;> rfl

theorem step_of_refusal {m : Machine} {fault : Fault} (fits : m.stack.depth ≤ 16)
    (refused : m.passed.refusal m.next = some fault) :
    m.step = ⟨{ m with pc := m.here }, m.stepLog, .error fault⟩ := by
  rw [step_total, fault?_of_fits (m := m.passed) fits, refused]
  simp only [stalled_of_fits fits]

theorem step_of_runs {m : Machine} (fits : m.stack.depth ≤ 16)
    (runs : m.passed.refusal m.next = none) :
    m.step = ⟨m.passed.effect m.next, m.stepLog, .ok ()⟩ := by
  rw [step_total, fault?_of_fits (m := m.passed) fits, runs]

/-! ## One load -/

theorem load_eq (m : Machine) (rom : List UInt8) :
    m.load rom =
      if rom.length ≤ maxRomSize then
        ⟨{ m with memory := m.memory.writeBlock Memory.programStart rom },
          [.copied rom.length, .loaded rom.length], .ok ()⟩
      else ⟨m, [], .error (.romTooLarge rom.length)⟩ := by
  by_cases short : rom.length ≤ maxRomSize
  · simp only [load, m.memory.load_run, if_pos short]
  · simp only [load, m.memory.load_run, if_neg short]

/-- A load changes nothing but memory. -/
theorem load_parts (m : Machine) (rom : List UInt8) :
    (m.load rom).machine = { m with memory := (m.load rom).machine.memory } := by
  rw [load_eq]
  split <;> rfl

theorem load_stack (m : Machine) (rom : List UInt8) : (m.load rom).machine.stack = m.stack := by
  rw [load_parts]

theorem load_random (m : Machine) (rom : List UInt8) : (m.load rom).machine.random = m.random := by
  rw [load_parts]

theorem load_config (m : Machine) (rom : List UInt8) : (m.load rom).machine.config = m.config := by
  rw [load_parts]

end Machine

/-- Forgetting what a call returned does not hide its fault. -/
theorem Reply.answered_error_iff {r : Reply Unit} {fault : Fault} :
    r.answered.result = .error fault ↔ r.result = .error fault := by
  unfold answered
  cases r.result <;> simp [Except.map]

end Chip8
