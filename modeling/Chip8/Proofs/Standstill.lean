/-
# Chip8.Proofs.Standstill -- machines that make no progress

A step that does nothing can be made as often as one likes.  What is left to a host, if it
neither resets the machine nor loads a program, is to let its timers run and to move its keys:
`idle` is what a call then does.  `Trail.idles` says so for every run, of any condition that
timers and keys have no say in and under which steps do nothing.

The first such condition is a failure.  A failed step left the machine as it was, and whether
a step fails depends on the counter, the stack and the opcode alone; so the machine has halted
for good:

* `Paused.foldl_idle`: idling changes nothing but the timers and the keypad;
* `frame_of_stuck`: what a frame does where steps do nothing;
* `Halted.stuck`, `Halted.idle`: the step of a halted machine does nothing, and neither timers
  nor keys make it go on;
* `failure_final`: all of it over any run.
-/
import Chip8.Proofs.Failure

namespace Chip8

set_option autoImplicit false

/-- The calls that go on with a program: no reset and no load. -/
def Operation.IsPlay : Operation → Prop
  | .reset | .load _ | .loadFile .. => False
  | _ => True

namespace Machine

/-! ## Idling -/

/-- What a call does to a machine whose steps do nothing: it lets the timers run, once for a
tick and once for a frame, or it moves a key. -/
def idle (m : Machine) : Operation → Machine
  | .tick | .frame _ => m.countDown
  | .press code down => m.press code down
  | _ => m

/-- Nothing has changed but the timers and the keypad. -/
def Paused (m k : Machine) : Prop :=
  k = { m with delay := k.delay, sound := k.sound, keypad := k.keypad }

/-- The next step does nothing, whatever it answers. -/
def Stuck (m : Machine) : Prop := m.step.machine = m

variable {m : Machine}

theorem Paused.refl (m : Machine) : m.Paused m := rfl

theorem Paused.idle {k : Machine} (paused : m.Paused k) (op : Operation) :
    m.Paused (k.idle op) := by
  rw [paused]
  cases op <;> exact rfl

theorem Paused.foldl_idle {k : Machine} (paused : m.Paused k) (ops : List Operation) :
    m.Paused (ops.foldl Machine.idle k) := by
  induction ops generalizing k with
  | nil => exact paused
  | cons op ops ih => exact ih (paused.idle op)

/-- Steps add nothing to idling. -/
theorem foldl_idle_of_steps {moments : List Moment} (steps : ∀ j ∈ moments, j.call = .step)
    (k : Machine) : (moments.map (·.call)).foldl idle k = k := by
  induction moments with
  | nil => rfl
  | cons j moments ih =>
      rw [List.map_cons, List.foldl_cons, steps j List.mem_cons_self]
      exact ih fun i member => steps i (List.mem_cons_of_mem _ member)

/-- The moments of a history idle as its calls do. -/
theorem foldl_idle_history (m k : Machine) (ops : List Operation) :
    ((m.history ops).map (·.call)).foldl idle k = ops.foldl idle k := by
  induction ops generalizing m k with
  | nil => rfl
  | cons op ops ih =>
      have single : ((m.momentsOf op).map (·.call)).foldl idle k = k.idle op := by
        cases op with
        | frame n => exact foldl_idle_of_steps (fun _ => call_of_mem_stepMoments) _
        | _ => rfl
      rw [history, List.map_append, List.foldl_append, single, ih, List.foldl_cons]

/-- The calls that a call is taken apart into go on with a program if it does. -/
theorem isPlay_of_mem_momentsOf {op : Operation} (play : op.IsPlay) {j : Moment}
    (member : j ∈ m.momentsOf op) : j.call.IsPlay := by
  cases op with
  | frame n =>
      rcases List.mem_cons.1 member with rfl | inside
      · trivial
      · rw [call_of_mem_stepMoments inside]
        trivial
  | _ =>
      cases List.mem_singleton.1 member
      exact play

theorem isPlay_of_mem_history {ops : List Operation} (play : ∀ op ∈ ops, op.IsPlay) {j : Moment}
    (member : j ∈ m.history ops) : j.call.IsPlay := by
  induction ops generalizing m with
  | nil => cases member
  | cons op ops ih =>
      rcases List.mem_append.1 member with now | further
      · exact isPlay_of_mem_momentsOf (play op List.mem_cons_self) now
      · exact ih (fun op inside => play op (List.mem_cons_of_mem _ inside)) further

end Machine

/-! ## Frames -/

/-- Where a step does nothing, so do any number of them; a run of at least one ends as the
first. -/
theorem Run.steps_of_stuck {r : Run} (going : r.fault = none) (stuck : r.machine.Stuck) (n : Nat) :
    (r.steps n).machine = r.machine ∧
      (r.steps n).reply.result = if n = 0 then .ok () else r.machine.step.result := by
  induction n generalizing r with
  | zero => simp [steps, reply, going]
  | succ n ih =>
      have same : r.extend.machine = r.machine := r.extend_machine.trans stuck
      simp only [steps, going, Option.isSome_none, Bool.false_eq_true, if_false, Nat.succ_ne_zero]
      cases outcome : r.machine.step.result with
      | ok =>
          have further : r.extend.fault = none := by simp [extend, outcome]
          obtain ⟨there, result⟩ := ih further (same ▸ stuck)
          rw [same, outcome] at result
          exact ⟨there.trans same, by rw [result]; split <;> rfl⟩
      | error fault =>
          have ended : r.extend.fault = some fault := by simp [extend, outcome]
          rw [steps_of_fault (by simp [ended])]
          exact ⟨same, by simp [reply, ended]⟩

namespace Machine

variable {m : Machine}

/-- A frame of at least one step answers as its first step, and lets the timers run. -/
theorem frame_of_stuck {n : Nat} (stuck : n ≠ 0 → m.countDown.Stuck) :
    (m.frame n).machine = m.countDown ∧
      (m.frame n).result = if n = 0 then .ok () else m.countDown.step.result := by
  cases n with
  | zero => exact ⟨rfl, rfl⟩
  | succ n => exact Run.steps_of_stuck (r := Run.start m.countDown) rfl (stuck n.succ_ne_zero) _

end Machine

/-! ## Runs -/

/-- **Where steps do nothing, a run is idle.**  `P` holds of all its machines if timers and keys
keep it, and if under `P` the steps that are made do nothing. -/
theorem Trail.idles {P : Machine → Prop}
    (kept : ∀ {k : Machine} (op : Operation), P k → P (k.idle op)) {m k : Machine}
    {past : List Moment} (trail : Trail m past k) (holds : P m)
    (play : ∀ j ∈ past, j.call.IsPlay)
    (stuck : ∀ j ∈ past, j.call = .step → P j.machine → j.machine.Stuck) :
    P k ∧ k = (past.map (·.call)).foldl Machine.idle m := by
  induction trail with
  | nil => exact ⟨holds, rfl⟩
  | @snoc past k before op atom ih =>
      obtain ⟨there, idled⟩ := ih (fun j member => play j (List.mem_append_left _ member))
        (fun j member => stuck j (List.mem_append_left _ member))
      -- `P` holds where the last call was made, so a step did nothing there either.
      have last : (⟨k, op⟩ : Moment) ∈ past ++ [⟨k, op⟩] := by simp
      have here : (k.perform op).machine = k.idle op := by
        cases op with
        | step =>
            have stays : k.Stuck := stuck ⟨k, .step⟩ last rfl there
            exact stays
        | frame n => exact atom.elim
        | tick | listen | press _ _ => rfl
        | reset | load _ | loadFile _ _ => exact (play _ last).elim
      rw [here, List.map_append, List.foldl_append, ← idled]
      exact ⟨kept op there, rfl⟩

namespace Machine

/-! ## Failures -/

/-- The next step fails. -/
structure Halted (fault : Fault) (m : Machine) : Prop where
  wf : m.WellFormed
  failed : m.step.result = .error fault

namespace Halted

variable {m : Machine} {fault : Fault}

theorem stuck (halted : m.Halted fault) : m.Stuck := step_error_machine halted.wf halted.failed

/-- Neither timers nor keys have a say in whether a step fails. -/
theorem idle (halted : m.Halted fault) (op : Operation) : (m.idle op).Halted fault := by
  obtain ⟨wf, failed⟩ := halted
  have ticked : m.countDown.WellFormed := { wf with }
  have cause := (step_error_iff wf).1 failed
  cases op with
  | tick | frame _ => exact ⟨ticked, (step_error_iff ticked).2 cause⟩
  | press code down =>
      have pressed : (m.press code down).WellFormed := { wf with }
      exact ⟨pressed, (step_error_iff pressed).2 cause⟩
  | _ => exact ⟨wf, failed⟩

theorem perform_frame_succ (halted : m.Halted fault) (n : Nat) :
    (m.perform (.frame (n + 1))).result = .error fault := by
  have ticked : m.countDown.Halted fault := halted.idle .tick
  exact Reply.answered_error_iff.2 ((frame_of_stuck fun _ => ticked.stuck).2.trans ticked.failed)

end Halted

/-- **A failure is final.**  After a step has failed, whatever else a host calls, short of a
reset and of a load, only lets the timers run and moves keys.  At any time every step and every
frame that makes one fails with the same fault, which names the same address, and a frame that
makes none succeeds. -/
theorem failure_final {m : Machine} (reachable : m.Reachable) {fault : Fault}
    (failed : (m.perform .step).result = .error fault) {ops : List Operation}
    (play : ∀ op ∈ ops, op.IsPlay) :
    let k := m.after ops
    k = ops.foldl idle m ∧ m.Paused k ∧
      (k.perform .step).result = .error fault ∧
      (∀ n, (k.perform (.frame (n + 1))).result = .error fault) ∧
      (k.perform (.frame 0)).result = .ok .done := by
  intro k
  have halted : m.Halted fault := ⟨reachable.wellFormed, Reply.answered_error_iff.1 failed⟩
  obtain ⟨there, idled⟩ := (m.trail_history ops).idles (fun op halted => halted.idle op) halted
    (fun j => isPlay_of_mem_history play) (fun j _ _ halted => halted.stuck)
  rw [foldl_idle_history] at idled
  have paused : m.Paused (m.after ops) := idled ▸ (Paused.refl m).foldl_idle ops
  exact ⟨idled, paused, Reply.answered_error_iff.2 there.failed, there.perform_frame_succ, rfl⟩

/-- A machine that has called itself until its stack was full. -/
def fullStack : Machine := (boot {} 0 (some [0x22, 0x00])).machine.after [.frame 16]

/-- It stays at the call that does not fit, with the stack full, while its timers run and a key
goes down. -/
theorem fullStack_final :
    fullStack.Reachable ∧ (fullStack.perform .step).result = .error (.stackOverflow 0x202) ∧
      let k := fullStack.after [.step, .press 120 true, .tick, .frame 3]
      fullStack.Paused k ∧ (k.perform .step).result = .error (.stackOverflow 0x202) ∧
        (k.perform (.frame 2)).result = .error (.stackOverflow 0x202) := by
  have reachable : fullStack.Reachable := ⟨{}, 0, some [0x22, 0x00], [.frame 16], rfl⟩
  have failed : (fullStack.perform .step).result = .error (.stackOverflow 0x202) := by
    refine Reply.answered_error_iff.2 ((step_error_iff reachable.wellFormed).2 (.inr ?_))
    decide +kernel
  have play : ∀ op ∈ [.step, .press 120 true, .tick, .frame 3], Operation.IsPlay op := by
    simp [Operation.IsPlay]
  obtain ⟨-, paused, step, frames, -⟩ := failure_final reachable failed play
  exact ⟨reachable, failed, paused, step, frames 1⟩

end Machine

end Chip8
