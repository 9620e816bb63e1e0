/-
# Chip8.Proofs.Options -- where the two options of a machine make a difference

A configuration says what a wait for a key does while no key is held, and whether a transfer of
registers up to `Vx` includes `Vx` itself.  Each is looked at in one place: the first by a wait
that finds no key, the second by the two transfers.  A program that comes to neither does the same
whatever the options are, and a transfer that includes its last register is one up to the next
register that does not.

* `Reconfigured c d`: a machine with the configuration `c`, and the same with `d`;
* `step_options`: a step keeps it where it consults no option in which the two differ;
* `execute_storeRegs`, `execute_loadRegs`: a transfer depends on its count alone;
* `options_conservative`: so two such machines go on alike for as long as no step consults what
  they differ in, and the two ways to count registers are one register apart.
-/
import Chip8.Proofs.KeyWait
import Chip8.Proofs.View

namespace Chip8

set_option autoImplicit false

/-- Opcode Fx0A. -/
def Instruction.isWait : Instruction → Bool
  | waitKey _ => true
  | _ => false

namespace Machine

variable {m n : Machine} {c d : Config}

/-- Equal but for what a wait for a key does and for how transfers count. -/
def SameButOptions (m n : Machine) : Prop :=
  n = { m with
    config := { m.config with keyWait := n.config.keyWait, inclusive := n.config.inclusive } }

/-- A machine with the first configuration, and the same machine with the second. -/
def Reconfigured (c d : Config) (m n : Machine) : Prop :=
  m.config = c ∧ n = { m with config := d }

/-- The next step looks at no option in which two configurations differ: it is no wait that
finds no key held if they differ in the first, and no transfer if they differ in the second. -/
def Indifferent (c d : Config) (m : Machine) : Prop :=
  (c.keyWait ≠ d.keyWait → m.next.isWait → ¬ m.keypad.NoneHeld) ∧
    (c.inclusive ≠ d.inclusive → ¬ m.next.isTransfer)

instance (c d : Config) : DecidablePred (Indifferent c d) := fun m =>
  inferInstanceAs (Decidable ((c.keyWait ≠ d.keyWait → m.next.isWait = true →
    ¬ m.keypad.NoneHeld) ∧ (c.inclusive ≠ d.inclusive → ¬ m.next.isTransfer = true)))

/-! ## Steps -/

theorem sameView_options (bound : m.config = c) (indifferent : m.Indifferent c d) :
    m.next.SameView m { m with config := d } where
  core := ⟨rfl, rfl, rfl, rfl, rfl⟩
  keyWait x spelled none := by
    have waits : m.next.isWait := by
      rw [spelled]
      rfl
    have released : m.keypad.NoneHeld := m.keypad.first?_eq_none_iff.1 none
    rw [bound]
    by_contra differ
    exact indifferent.1 differ waits released
  inclusive transfers := by
    rw [bound]
    by_contra differ
    exact indifferent.2 differ transfers

theorem step_options (bound : m.config = c) (indifferent : m.Indifferent c d) :
    m.step.Rel (Reconfigured c d) { m with config := d }.step := by
  refine step_of_sameView (sameView_options bound indifferent) ⟨bound, rfl⟩ ?_
  rw [effect_parts m.passed]
  exact ⟨bound, rfl⟩

theorem lockstep_options (keymap : d.keymap = c.keymap) :
    LockstepWhile (Indifferent c d) (Reconfigured c d) where
  step := by
    rintro m _ indifferent ⟨bound, rfl⟩
    exact step_options bound indifferent
  countDown := by
    rintro m _ ⟨bound, rfl⟩
    exact ⟨bound, rfl⟩
  isSounding := by
    rintro m _ ⟨-, rfl⟩
    rfl
  press := by
    rintro m _ code _ down rfl ⟨rfl, rfl⟩
    refine ⟨rfl, ?_⟩
    simp only [press, keymap]
  reset := by
    rintro m _ ⟨bound, rfl⟩
    exact ⟨bound, rfl⟩
  load := by
    rintro m _ rom ⟨bound, rfl⟩
    exact load_rel rom ⟨bound, rfl⟩ ⟨bound, rfl⟩

/-! ## Transfers -/

theorem execute_storeRegs (m : Machine) {x : UInt8} (inside : x < 16) :
    m.execute (.storeRegs x) = .ok () (m.stored (m.config.transferCount x)) :=
  m.execute_eq nofun inside

theorem execute_loadRegs (m : Machine) {x : UInt8} (inside : x < 16) :
    m.execute (.loadRegs x) = .ok () (m.restored (m.config.transferCount x)) :=
  m.execute_eq nofun inside

/-- A store of registers is read back where it was made, also around the end of memory. -/
theorem read_stored (m : Machine) {count : Nat} (few : count ≤ 16) {j : Fin 16}
    (inside : j.val < count) :
    (m.stored count).memory.read (m.index.toNat + j) = Table.get m.v j := by
  have length : (m.v.toList.take count).length = count := by simp [few]
  show (m.memory.writeBlock _ (m.v.toList.take count)).read _ = _
  rw [Memory.read_writeBlock_add _ _ (by omega) (by omega), List.getElem_take]
  simp [Table.get]

theorem get_restored (m : Machine) {count : Nat} {j : Fin 16} (inside : j.val < count) :
    Table.get (m.restored count).v j = m.memory.read (m.index.toNat + j) := by
  show Table.get (m.loaded count) j = _
  rw [loaded, Table.get_ofFn, if_pos inside]

/-- The machine with transfers that include the last register, or that do not. -/
def including (m : Machine) (inclusive : Bool) : Machine :=
  { m with config := { m.config with inclusive } }

theorem succ_toNat {x : UInt8} (low : x < 15) : (x + 1).toNat = x.toNat + 1 := by
  have bound : x.toNat < 15 := UInt8.lt_iff_toNat_lt.1 low
  rw [UInt8.toNat_add]
  show (x.toNat + 1) % 256 = x.toNat + 1
  omega

theorem succ_lt {x : UInt8} (low : x < 15) : x + 1 < 16 := by
  have bound : x.toNat < 15 := UInt8.lt_iff_toNat_lt.1 low
  rw [UInt8.lt_iff_toNat_lt, succ_toNat low]
  show x.toNat + 1 < 16
  omega

theorem transferCount_succ (m : Machine) {x : UInt8} (low : x < 15) :
    (m.including false).config.transferCount (x + 1) = x.toNat + 1 :=
  succ_toNat low

/-- **The options are conservative.**  Two machines that differ in nothing but their two options
answer and report alike, and differ in nothing else afterwards, under any common calls of which
no step, also inside a frame, waits for a key that is not held, if they differ in the first
option, and none transfers registers, if they differ in the second.  A transfer up to `x` that
includes `Vx` leaves what one up to `x + 1` leaves that does not; without its last register a
transfer up to the first does nothing, and with it one up to the last moves all sixteen. -/
theorem options_conservative {m n : Machine} (same : m.SameButOptions n) :
    (∀ ops, QuietOn (Indifferent m.config n.config) (m.history ops) →
      List.Forall₂ (Reply.Rel (Reconfigured m.config n.config)) (m.performAll ops)
        (n.performAll ops)) ∧
      (∀ (k : Machine) (x : UInt8), x < 15 →
        (∃ l : Machine, (k.including true).execute (.storeRegs x) = .ok () (l.including true) ∧
          (k.including false).execute (.storeRegs (x + 1)) = .ok () (l.including false)) ∧
        ∃ l : Machine, (k.including true).execute (.loadRegs x) = .ok () (l.including true) ∧
          (k.including false).execute (.loadRegs (x + 1)) = .ok () (l.including false)) ∧
      (∀ k : Machine, (k.including false).execute (.storeRegs 0) = .ok () (k.including false) ∧
        (k.including false).execute (.loadRegs 0) = .ok () (k.including false)) ∧
      ∀ k : Machine,
        (∃ l, (k.including true).execute (.storeRegs 15) = .ok () l ∧
          ∀ j : Fin 16, l.memory.read (k.index.toNat + j) = Table.get k.v j) ∧
        ∃ l, (k.including true).execute (.loadRegs 15) = .ok () l ∧
          ∀ j : Fin 16, Table.get l.v j = k.memory.read (k.index.toNat + j) := by
  refine ⟨?_, ?_, ?_, ?_⟩
  · intro ops quiet
    have keymap : n.config.keymap = m.config.keymap := by rw [same]
    have related : Reconfigured m.config n.config m n := by
      refine ⟨rfl, ?_⟩
      rw [same]
    exact (lockstep_options keymap).performAll ops quiet related
  · intro k x low
    have inside : x < 16 := UInt8.lt_trans low (by decide)
    constructor
    · refine ⟨k.stored (x.toNat + 1), execute_storeRegs _ inside, ?_⟩
      rw [execute_storeRegs _ (succ_lt low), transferCount_succ k low]
      rfl
    · refine ⟨k.restored (x.toNat + 1), execute_loadRegs _ inside, ?_⟩
      rw [execute_loadRegs _ (succ_lt low), transferCount_succ k low]
      rfl
  · intro k
    have first : (0 : UInt8) < 16 := by decide
    constructor
    · calc (k.including false).execute (.storeRegs 0)
        _ = .ok () ((k.including false).stored 0) := execute_storeRegs _ first
        _ = .ok () (k.including false) := by rw [stored_zero]
    · calc (k.including false).execute (.loadRegs 0)
        _ = .ok () ((k.including false).restored 0) := execute_loadRegs _ first
        _ = .ok () (k.including false) := by rw [restored_zero]
  · intro k
    have last : (15 : UInt8) < 16 := by decide
    constructor
    · refine ⟨_, execute_storeRegs _ last, ?_⟩
      intro j
      exact read_stored (k.including true) (Nat.le_refl 16) j.isLt
    · refine ⟨_, execute_loadRegs _ last, ?_⟩
      intro j
      exact get_restored (k.including true) j.isLt

/-! ## Poles -/

/-- A machine that waits for a key and then stores the registers before the one it took. -/
def keyThenStore : Machine := (boot {} 0 (some [0xF3, 0x0A, 0xF3, 0x55])).machine

/-- The same, but blocking. -/
def keyThenStoreBlocking : Machine :=
  { keyThenStore with config := { keyThenStore.config with keyWait := .block } }

/-- With the key held the two do not differ, although they transfer registers: how these count
is the same on both sides. -/
theorem keyThenStore_conservative :
    keyThenStore.SameButOptions keyThenStoreBlocking ∧
      QuietOn (Indifferent keyThenStore.config keyThenStoreBlocking.config)
        (keyThenStore.history [.press 120 true, .frame 1, .press 120 false, .step]) ∧
      List.Forall₂ (Reply.Rel (Reconfigured keyThenStore.config keyThenStoreBlocking.config))
        (keyThenStore.performAll [.press 120 true, .frame 1, .press 120 false, .step])
        (keyThenStoreBlocking.performAll [.press 120 true, .frame 1, .press 120 false, .step]) := by
  have same : keyThenStore.SameButOptions keyThenStoreBlocking := rfl
  have quiet : QuietOn (Indifferent keyThenStore.config keyThenStoreBlocking.config)
      (keyThenStore.history [.press 120 true, .frame 1, .press 120 false, .step]) := by
    decide +kernel
  exact ⟨same, quiet, (options_conservative same).1 _ quiet⟩

end Machine

end Chip8
