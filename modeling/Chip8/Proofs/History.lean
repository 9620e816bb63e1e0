/-
# Chip8.Proofs.History -- the single calls that a run comes down to

A frame is a tick and some steps, and how many steps depends on the machine.  A history
takes every frame apart: it lists the calls that were made, none of them a frame, each
with the machine it was made on.

* `history`: the moments of a list of calls on a machine;
* `Trail m past k`: from `m` to `k` in these moments, one at a time.  An induction on it
  is how a fact about every run is proved: it has one case for the start and one for a
  further call that is not a frame;
* `trail_history`: the history of a run is a trail to where the run ends;
* `frame_fault`: a frame fails only as one of its steps does;
* `Reachable`: the machines that some host can come to.
-/
import Chip8.Machine.Operation

namespace Chip8

set_option autoImplicit false

/-- A call that is not made of others. -/
def Operation.IsAtom : Operation → Prop
  | .frame _ => False
  | _ => True

/-- A call, with the machine it was made on. -/
structure Moment where
  machine : Machine
  call : Operation

/-- The machine after the call. -/
def Moment.after (k : Moment) : Machine := (k.machine.perform k.call).machine

/-! ## Taking calls apart -/

namespace Machine

/-- Up to `n` steps; one that fails is the last. -/
def stepMoments : Nat → Machine → List Moment
  | 0, _ => []
  | n + 1, m =>
      ⟨m, .step⟩ :: match m.step.result with
        | .ok () => stepMoments n m.step.machine
        | .error _ => []

theorem call_of_mem_stepMoments {n : Nat} {m : Machine} {j : Moment}
    (member : j ∈ stepMoments n m) : j.call = .step := by
  induction n generalizing m with
  | zero => cases member
  | succ n ih =>
      rcases List.mem_cons.1 member with rfl | further
      · rfl
      · split at further
        · exact ih further
        · cases further

theorem length_stepMoments_le (n : Nat) (m : Machine) : (stepMoments n m).length ≤ n := by
  induction n generalizing m with
  | zero => exact Nat.le_refl 0
  | succ n ih =>
      rw [stepMoments, List.length_cons]
      refine Nat.succ_le_succ ?_
      split
      · exact ih _
      · exact Nat.zero_le n

def momentsOf (m : Machine) : Operation → List Moment
  | .frame n => ⟨m, .tick⟩ :: stepMoments n m.countDown
  | op => [⟨m, op⟩]

/-- The moments of a list of calls, in order. -/
def history (m : Machine) : List Operation → List Moment
  | [] => []
  | op :: ops => m.momentsOf op ++ (m.perform op).machine.history ops

theorem history_append (m : Machine) (ops further : List Operation) :
    m.history (ops ++ further) = m.history ops ++ (m.after ops).history further := by
  induction ops generalizing m with
  | nil => rfl
  | cons op ops ih =>
      rw [List.cons_append, history, ih, ← List.append_assoc]
      rfl

end Machine

/-! ## Trails -/

/-- From `m` to another machine in the given moments. -/
inductive Trail (m : Machine) : List Moment → Machine → Prop
  | nil : Trail m [] m
  | snoc {past : List Moment} {k : Machine} (before : Trail m past k) (op : Operation)
      (atom : op.IsAtom) : Trail m (past ++ [⟨k, op⟩]) (k.perform op).machine

namespace Trail

variable {m k n : Machine} {past later : List Moment}

theorem trans (first : Trail m past k) (second : Trail k later n) :
    Trail m (past ++ later) n := by
  induction second with
  | nil => simpa using first
  | snoc before op atom ih => simpa [List.append_assoc] using ih.snoc op atom

theorem single (m : Machine) (op : Operation) (atom : op.IsAtom) :
    Trail m [⟨m, op⟩] (m.perform op).machine :=
  snoc nil op atom

/-- The part of a trail that leads up to one of its moments. -/
theorem upTo {moment : Moment} (trail : Trail m (past ++ moment :: later) n) :
    Trail m past moment.machine ∧ moment.call.IsAtom := by
  generalize whole : past ++ moment :: later = moments at trail
  induction trail generalizing later with
  | nil => simp at whole
  | @snoc earlier k before op atom ih =>
      rcases List.eq_nil_or_concat later with rfl | ⟨later, last, rfl⟩
      · obtain ⟨rfl, single⟩ := List.append_inj' whole rfl
        cases single
        exact ⟨before, atom⟩
      · have longer : (past ++ moment :: later) ++ [last] = earlier ++ [⟨k, op⟩] := by
          simpa using whole
        exact ih (List.append_inj' longer rfl).1

end Trail

/-! ## Histories are trails -/

namespace Run

theorem extend_machine (r : Run) : r.extend.machine = r.machine.step.machine := by
  simp only [extend]
  split <;> rfl

theorem trail_steps (n : Nat) {r : Run} (going : r.fault = none) :
    Trail r.machine (Machine.stepMoments n r.machine) (r.steps n).machine := by
  induction n generalizing r with
  | zero => exact .nil
  | succ n ih =>
      have one : Trail r.machine [⟨r.machine, .step⟩] r.machine.step.machine :=
        .single r.machine .step trivial
      simp only [steps, going, Option.isSome_none, Bool.false_eq_true, if_false,
        Machine.stepMoments]
      cases outcome : r.machine.step.result with
      | ok =>
          have further : r.extend.fault = none := by simp [extend, outcome]
          have rest := ih further
          rw [extend_machine] at rest
          exact one.trans rest
      | error fault =>
          have ended : r.extend.fault.isSome := by simp [extend, outcome]
          rw [steps_of_fault ended, extend_machine]
          exact one

/-- A run that ended did so at a step that failed. -/
theorem fault_steps {n : Nat} {r : Run} {fault : Fault} (going : r.fault = none)
    (ended : (r.steps n).fault = some fault) :
    ∃ past k, Trail r.machine past k ∧ k.step.result = .error fault := by
  induction n generalizing r with
  | zero => simp [steps, going] at ended
  | succ n ih =>
      simp only [steps, going, Option.isSome_none, Bool.false_eq_true, if_false] at ended
      cases outcome : r.machine.step.result with
      | ok =>
          have further : r.extend.fault = none := by simp [extend, outcome]
          obtain ⟨past, k, trail, failed⟩ := ih further ended
          rw [extend_machine] at trail
          exact ⟨_, k, (Trail.single r.machine .step trivial).trans trail, failed⟩
      | error other =>
          have here : r.extend.fault = some other := by simp [extend, outcome]
          rw [steps_of_fault (by simp [here]), here] at ended
          cases ended
          exact ⟨[], r.machine, .nil, outcome⟩

end Run

namespace Machine

theorem trail_momentsOf (m : Machine) (op : Operation) :
    Trail m (m.momentsOf op) (m.perform op).machine := by
  cases op with
  | frame n =>
      have tick := Trail.single m .tick trivial
      exact tick.trans (Run.trail_steps n (r := Run.start m.countDown) rfl)
  | _ => exact .single m _ trivial

/-- **The history of a run leads to where the run ends.** -/
theorem trail_history (m : Machine) (ops : List Operation) :
    Trail m (m.history ops) (m.after ops) := by
  induction ops generalizing m with
  | nil => exact .nil
  | cons op ops ih => exact (m.trail_momentsOf op).trans (ih _)

theorem frame_fault {m : Machine} {n : Nat} {fault : Fault}
    (failed : (m.frame n).result = .error fault) :
    ∃ past k, Trail m past k ∧ k.step.result = .error fault := by
  have ended : ((Run.start m.countDown).steps n).fault = some fault := by
    unfold frame Run.reply at failed
    cases h : ((Run.start m.countDown).steps n).fault <;> simp_all
  obtain ⟨past, k, trail, outcome⟩ := Run.fault_steps (r := Run.start m.countDown) rfl ended
  exact ⟨_, k, (Trail.single m .tick trivial).trans trail, outcome⟩

/-! ## Reachable machines -/

/-- Some host can come to this machine: it switches one on and makes some calls, of which
any may fail. -/
def Reachable (m : Machine) : Prop :=
  ∃ (config : Config) (drawn : UInt64) (rom : Option (List UInt8)) (ops : List Operation),
    m = (boot config drawn rom).machine.after ops

end Machine

end Chip8
