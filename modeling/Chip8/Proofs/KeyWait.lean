/-
# Chip8.Proofs.KeyWait -- waiting for a key

The instruction `Fx0A` looks at the keypad once a step.  If a key is held, it takes the one with
the lowest number.  If none is, a machine that polls goes on, and one that blocks goes back to
the same instruction, which exactly undoes the move past it, also where that went around the end
of memory.  So a blocking machine stands still until a step finds a key held; keys that were
down only between two steps leave no trace.

* `Keypad.first?_eq_some_iff`, `Keypad.first?_eq_none_iff`: what the look finds;
* `step_takes_key`, `step_of_block`, `step_of_poll`: the three outcomes of one step;
* `Waiting.stuck`, `Waiting.performAll_ok`: a blocking machine without a key does nothing, and
  no call fails on it;
* `key_wait`: all of it over any run.
-/
import Chip8.Proofs.Standstill

namespace Chip8

set_option autoImplicit false

/-! ## The keys that are held -/

namespace Keypad

/-- No key is held. -/
def NoneHeld (k : Keypad) : Prop := ∀ key, k.isHeld key = false

/-- The key is held, and none below it is. -/
structure IsLeast (k : Keypad) (key : UInt8) : Prop where
  lt : key < 16
  held : k.isHeld key = true
  least : ∀ j, j < key → k.isHeld j = false

variable (k : Keypad)

theorem isHeld_ofNat {j : Nat} (inside : j < k.held.toList.length) :
    k.isHeld (UInt8.ofNat j) = k.held.toList[j] := by
  have small : j < 16 := by simpa using inside
  have slot : (UInt8.ofNat j).toNat % 16 = j := by
    rw [UInt8.toNat_ofNat']
    omega
  simp only [isHeld, Table.get, keySlot, slot, Vector.getElem_toList]

theorem first?_eq_some_iff (key : UInt8) : k.first? = some key ↔ k.IsLeast key := by
  rw [first?, Option.map_eq_some_iff]
  constructor
  · rintro ⟨i, found, rfl⟩
    obtain ⟨inside, held, least⟩ := List.findIdx?_eq_some_iff_getElem.1 found
    have small : i < 16 := by simpa using inside
    have number : (UInt8.ofNat i).toNat = i := by
      rw [UInt8.toNat_ofNat']
      omega
    refine ⟨?_, (k.isHeld_ofNat inside).trans held, fun j below => ?_⟩
    · rw [UInt8.lt_iff_toNat_lt, number]
      exact small
    · rw [UInt8.lt_iff_toNat_lt, number] at below
      have view := k.isHeld_ofNat (j := j.toNat) (Nat.lt_trans below inside)
      rw [UInt8.ofNat_toNat] at view
      rw [view]
      exact Bool.eq_false_iff.2 (least j.toNat below)
  · rintro ⟨low, held, least⟩
    have inside : key.toNat < k.held.toList.length := by simpa using UInt8.lt_iff_toNat_lt.1 low
    refine ⟨key.toNat, List.findIdx?_eq_some_iff_getElem.2 ⟨inside, ?_, fun j below => ?_⟩,
      UInt8.ofNat_toNat⟩
    · have view := k.isHeld_ofNat inside
      rwa [UInt8.ofNat_toNat, held, eq_comm] at view
    · have number : (UInt8.ofNat j).toNat = j := by
        have := key.toNat_lt
        rw [UInt8.toNat_ofNat']
        omega
      have under : UInt8.ofNat j < key := by rwa [UInt8.lt_iff_toNat_lt, number]
      have view := k.isHeld_ofNat (Nat.lt_trans below inside)
      rw [least _ under] at view
      simp [← view]

theorem first?_eq_none_iff : k.first? = none ↔ k.NoneHeld := by
  rw [first?, Option.map_eq_none_iff, List.findIdx?_eq_none_iff]
  constructor
  · intro none key
    exact none _ (by simp [Table.get])
  · intro none b member
    obtain ⟨j, inside, rfl⟩ := List.mem_iff_getElem.1 member
    exact (k.isHeld_ofNat inside).symm.trans (none _)

instance : Decidable k.NoneHeld := decidable_of_iff _ k.first?_eq_none_iff

/-- Where a key is held, one of those held is the least. -/
theorem exists_isLeast {k : Keypad} (some : ¬ k.NoneHeld) : ∃ key, k.IsLeast key := by
  cases found : k.first? with
  | none => exact absurd (k.first?_eq_none_iff.1 found) some
  | some key => exact ⟨key, (k.first?_eq_some_iff key).1 found⟩

end Keypad

namespace Machine

variable {m : Machine} {x : UInt8}

/-! ## One step -/

/-- The step puts the least key that is held in `Vx` and goes on to the next instruction, and
that is all it does. -/
def TakesKey (m : Machine) (x : UInt8) : Prop :=
  ∃ key, m.keypad.IsLeast key ∧ m.step.result = .ok () ∧
    m.step.machine =
      { m with v := Table.set m.v (slotOf x.toNat) key, pc := (m.pc + 2) % 4096 }

/-- A wait for a key is never refused. -/
theorem step_of_waitKey (wf : m.WellFormed) (spelled : m.next = .waitKey x) :
    m.step.result = .ok () ∧
      m.step.machine = { m with pc := (m.pc + 2) % 4096 }.effect (.waitKey x) := by
  rw [step_of_spelled wf spelled rfl]
  exact ⟨rfl, rfl⟩

theorem step_takes_key (wf : m.WellFormed) (spelled : m.next = .waitKey x)
    (some : ¬ m.keypad.NoneHeld) : m.TakesKey x := by
  obtain ⟨ok, ran⟩ := step_of_waitKey wf spelled
  obtain ⟨key, least⟩ := Keypad.exists_isLeast some
  refine ⟨key, least, ok, ?_⟩
  rw [ran]
  simp only [effect, (m.keypad.first?_eq_some_iff key).2 least]
  rfl

theorem step_of_poll (wf : m.WellFormed) (spelled : m.next = .waitKey x)
    (poll : m.config.keyWait = .poll) (none : m.keypad.NoneHeld) :
    m.step.result = .ok () ∧ m.step.machine = { m with pc := (m.pc + 2) % 4096 } := by
  obtain ⟨ok, ran⟩ := step_of_waitKey wf spelled
  refine ⟨ok, ran.trans ?_⟩
  simp only [effect, m.keypad.first?_eq_none_iff.2 none, poll]

/-- Going back undoes going on, also around the end of memory. -/
theorem rewind {pc : UInt16} (address : pc < 4096) : ((pc + 2) % 4096 - 2) % 4096 = pc := by
  have low : pc.toNat < 4096 := UInt16.lt_iff_toNat_lt.1 address
  refine UInt16.toNat.inj ?_
  rw [UInt16.toNat_mod, UInt16.toNat_sub, UInt16.toNat_mod, UInt16.toNat_add]
  simp only [UInt16.reduceToNat]
  omega

theorem step_of_block (wf : m.WellFormed) (spelled : m.next = .waitKey x)
    (block : m.config.keyWait = .block) (none : m.keypad.NoneHeld) :
    m.step.result = .ok () ∧ m.step.machine = m := by
  obtain ⟨ok, ran⟩ := step_of_waitKey wf spelled
  refine ⟨ok, ran.trans ?_⟩
  simp only [effect, m.keypad.first?_eq_none_iff.2 none, block, rewind wf.pc_lt]

/-! ## Blocking -/

/-- The machine is at a wait for a key, and blocks on it. -/
structure Waiting (x : UInt8) (m : Machine) : Prop where
  wf : m.WellFormed
  spelled : m.next = .waitKey x
  block : m.config.keyWait = .block

namespace Waiting

theorem stuck (waiting : m.Waiting x) (none : m.keypad.NoneHeld) : m.Stuck :=
  (step_of_block waiting.wf waiting.spelled waiting.block none).2

/-- Neither timers nor keys take a machine away from where it waits. -/
theorem idle (waiting : m.Waiting x) (op : Operation) : (m.idle op).Waiting x := by
  obtain ⟨wf, spelled, block⟩ := waiting
  cases op with
  | tick | frame _ | press _ _ => exact ⟨{ wf with }, spelled, block⟩
  | _ => exact ⟨wf, spelled, block⟩

end Waiting

/-- At no moment that a step is made is a key held. -/
def Unattended (moments : List Moment) : Prop :=
  ∀ j ∈ moments, j.call = .step → j.machine.keypad.NoneHeld

instance (moments : List Moment) : Decidable (Unattended moments) :=
  inferInstanceAs (Decidable (∀ j ∈ moments, j.call = .step → j.machine.keypad.NoneHeld))

namespace Waiting

theorem idles (waiting : m.Waiting x) {k : Machine} {past : List Moment} (trail : Trail m past k)
    (play : ∀ j ∈ past, j.call.IsPlay) (none : Unattended past) :
    k.Waiting x ∧ k = (past.map (·.call)).foldl Machine.idle m :=
  trail.idles (fun op there => there.idle op) waiting play
    fun j member step there => there.stuck (none j member step)

theorem perform_ok (waiting : m.Waiting x) {op : Operation} (play : op.IsPlay)
    (none : Unattended (m.momentsOf op)) : ∃ answer, (m.perform op).result = .ok answer := by
  cases op with
  | step =>
      have now := none _ List.mem_cons_self rfl
      have ok := (step_of_block waiting.wf waiting.spelled waiting.block now).1
      exact ⟨.done, by simp only [perform, Reply.answered, ok, Except.map]⟩
  | frame n =>
      have ticked : m.countDown.Waiting x := waiting.idle .tick
      have now (some : n ≠ 0) : m.countDown.keypad.NoneHeld := by
        obtain ⟨n, rfl⟩ := Nat.exists_eq_succ_of_ne_zero some
        exact none ⟨m.countDown, .step⟩ (List.mem_cons_of_mem _ List.mem_cons_self) rfl
      have framed := (frame_of_stuck fun some => ticked.stuck (now some)).2
      refine ⟨.done, ?_⟩
      rw [perform, Reply.answered, framed]
      split
      · rfl
      · rename_i some
        rw [(step_of_block ticked.wf ticked.spelled ticked.block (now some)).1]
        rfl
  | tick | listen | press _ _ => exact ⟨_, rfl⟩
  | reset | load _ | loadFile _ _ => exact play.elim

theorem performAll_ok (waiting : m.Waiting x) {ops : List Operation}
    (play : ∀ op ∈ ops, op.IsPlay) (none : Unattended (m.history ops)) :
    ∀ reply ∈ m.performAll ops, ∃ answer, reply.result = .ok answer := by
  induction ops generalizing m with
  | nil => exact nofun
  | cons op ops ih =>
      have here := play op List.mem_cons_self
      have now : Unattended (m.momentsOf op) :=
        fun j member => none j (List.mem_append_left _ member)
      have further := (waiting.idles (m.trail_momentsOf op)
        (fun j => isPlay_of_mem_momentsOf here) now).1
      intro reply member
      rcases List.mem_cons.1 member with rfl | later
      · exact waiting.perform_ok here now
      · exact ih further (fun op inside => play op (List.mem_cons_of_mem _ inside))
          (fun j inside => none j (List.mem_append_right _ inside)) reply later

end Waiting

/-! ## Any run -/

/-- **Waiting for a key.**  At `Fx0A`, a machine that blocks stands still under whatever a host
calls, short of a reset and of a load, as long as no key is held when a step is made: no call
fails, and only the timers run and keys move.  The first step that finds a key held, also
inside a frame, takes the least such key and goes on.  A machine that polls always goes on, with
the least key held if there is one, and with no other change if there is none. -/
theorem key_wait {m : Machine} (reachable : m.Reachable) {x : UInt8}
    (spelled : (Instruction.waitKey x).SpelledBy (m.memory.word m.pc.toNat)) :
    (m.config.keyWait = .block → ∀ ops : List Operation, (∀ op ∈ ops, op.IsPlay) →
      (Unattended (m.history ops) →
        (∀ reply ∈ m.performAll ops, ∃ answer, reply.result = .ok answer) ∧
          m.after ops = ops.foldl idle m ∧ m.Paused (m.after ops)) ∧
      ∀ before j later, m.history ops = before ++ j :: later → Unattended before →
        j.call = .step → ¬ j.machine.keypad.NoneHeld →
        m.Paused j.machine ∧ j.machine.TakesKey x) ∧
    (m.config.keyWait = .poll →
      (¬ m.keypad.NoneHeld → m.TakesKey x) ∧
      (m.keypad.NoneHeld →
        m.step.result = .ok () ∧ m.step.machine = { m with pc := (m.pc + 2) % 4096 })) := by
  have wf := reachable.wellFormed
  have next : m.next = .waitKey x := by
    rw [Machine.next, fetch, wf.here_eq]
    exact Instruction.decode_eq_iff.2 spelled
  refine ⟨fun block ops play => ⟨fun none => ?_, fun before j later whole none step some => ?_⟩,
    fun poll => ⟨step_takes_key wf next, step_of_poll wf next poll⟩⟩
  · have waiting : m.Waiting x := ⟨wf, next, block⟩
    have idled := (waiting.idles (m.trail_history ops) (fun j => isPlay_of_mem_history play) none).2
    rw [foldl_idle_history] at idled
    exact ⟨waiting.performAll_ok play none, idled, idled ▸ (Paused.refl m).foldl_idle ops⟩
  · have waiting : m.Waiting x := ⟨wf, next, block⟩
    have trail := m.trail_history ops
    have plays : ∀ i ∈ before, i.call.IsPlay := fun i member =>
      isPlay_of_mem_history play (whole ▸ List.mem_append_left _ member)
    rw [whole] at trail
    obtain ⟨there, idled⟩ := waiting.idles trail.upTo.1 plays none
    exact ⟨idled ▸ (Paused.refl m).foldl_idle _, step_takes_key there.wf there.spelled some⟩

/-- A machine that blocks on a key. -/
def patient : Machine := (boot { keyWait := .block } 0 (some [0xF3, 0x0A])).machine

/-- Steps and frames, and a key that goes down and up again between two of them. -/
def patience : List Operation :=
  [.step, .press 120 true, .press 120 false, .frame 2, .press 113 true]

/-- They leave it where it is; the key that is still down is taken by the step after them. -/
theorem patient_waits :
    patient.Reachable ∧ (Instruction.waitKey 3).SpelledBy (patient.memory.word patient.pc.toNat) ∧
      patient.config.keyWait = .block ∧ patient.Paused (patient.after patience) ∧
      (patient.after patience).TakesKey 3 := by
  have reachable : patient.Reachable := ⟨{ keyWait := .block }, 0, some [0xF3, 0x0A], [], rfl⟩
  have decoded : decode (patient.memory.word patient.pc.toNat) = .waitKey 3 := by decide +kernel
  have spelled := Instruction.decode_eq_iff.1 decoded
  have unattended : Unattended (patient.history patience) := by decide +kernel
  have held : ¬ (patient.after patience).keypad.NoneHeld := by decide +kernel
  have play : ∀ op ∈ patience ++ [.step], op.IsPlay := by simp [patience, Operation.IsPlay]
  have whole := patient.history_append patience [.step]
  obtain ⟨-, first⟩ := (key_wait reachable spelled).1 rfl _ play
  obtain ⟨paused, takes⟩ := first _ _ [] whole unattended rfl held
  exact ⟨reachable, spelled, rfl, paused, takes⟩

end Machine

end Chip8
