/-
# Chip8.Proofs.Batching -- a frame is a tick and single steps

A frame runs its steps as one call and keeps a record of the run.  A host that lets the timers run
and then makes the steps itself, each as a call of its own, and stops at the first that fails, gets
the same machine, the same reports and the same answer.  So it does not matter into how many calls
a host packs its steps, as long as it lets the timers run once.

* `Reply.andThen`: a call, and if it succeeded a further one; `stepUpTo n` is `n` steps so chained;
* `Run.reply_steps`: what further steps add to a run, whether it has ended or not;
* `frame_eq`, `frame_add`: a frame as a tick and single steps, split at any count;
* `frame_of_steps`, `frame_of_fault`: where the single steps lead and where they fail decides every
  frame;
* `frame_batching`: all of it, for every machine a host can come to.
-/
import Chip8.Proofs.Failure

namespace Chip8

set_option autoImplicit false

/-! ## Calls in a row -/

namespace Reply

/-- A call and, if it succeeded, a further one on the machine that it left. -/
def andThen (r : Reply Unit) (further : Machine → Reply Unit) : Reply Unit :=
  match r.result with
  | .ok () =>
      let s := further r.machine
      ⟨s.machine, r.log ++ s.log, s.result⟩
  | .error _ => r

/-- A call that does nothing. -/
def idle (m : Machine) : Reply Unit := ⟨m, [], .ok ()⟩

variable {r : Reply Unit} {further : Machine → Reply Unit}

theorem andThen_of_ok (ok : r.result = .ok ()) :
    r.andThen further =
      ⟨(further r.machine).machine, r.log ++ (further r.machine).log,
        (further r.machine).result⟩ := by
  rw [andThen, ok]

theorem andThen_of_error {fault : Fault} (failed : r.result = .error fault) :
    r.andThen further = r := by
  rw [andThen, failed]

@[simp] theorem andThen_idle (r : Reply Unit) : r.andThen idle = r := by
  cases outcome : r.result with
  | ok => rw [andThen_of_ok outcome, idle, List.append_nil, ← outcome]
  | error fault => exact andThen_of_error outcome

theorem andThen_assoc (r : Reply Unit) (further last : Machine → Reply Unit) :
    (r.andThen further).andThen last = r.andThen fun m => (further m).andThen last := by
  cases first : r.result with
  | error fault => simp only [andThen, first]
  | ok =>
      cases second : (further r.machine).result with
      | error fault => simp only [andThen, first, second]
      | ok => simp only [andThen, first, second, List.append_assoc]

end Reply

/-- Up to `n` steps, each a call of its own; one that fails is the last. -/
def Machine.stepUpTo : Nat → Machine → Reply Unit
  | 0, m => .idle m
  | n + 1, m => m.step.andThen (stepUpTo n)

/-! ## Runs -/

namespace Run

theorem reply_of_fault {r : Run} (ended : r.fault.isSome) :
    ∃ fault, r.reply.result = .error fault := by
  obtain ⟨fault, same⟩ := Option.isSome_iff_exists.1 ended
  exact ⟨fault, by simp only [reply, same]⟩

theorem reply_extend {r : Run} (going : r.fault = none) :
    r.extend.reply = r.reply.andThen Machine.step := by
  have ok : r.reply.result = .ok () := by simp only [reply, going]
  rw [Reply.andThen_of_ok ok]
  cases outcome : r.machine.step.result <;> simp [extend, reply, log, outcome]

/-- **What further steps add to a run** they add as single calls; to one that has ended, nothing. -/
theorem reply_steps (r : Run) (n : Nat) :
    (r.steps n).reply = r.reply.andThen (Machine.stepUpTo n) := by
  induction n generalizing r with
  | zero => exact (Reply.andThen_idle _).symm
  | succ n ih =>
      by_cases ended : r.fault.isSome
      · obtain ⟨fault, failed⟩ := reply_of_fault ended
        rw [steps_of_fault ended, Reply.andThen_of_error failed]
      · have going : r.fault = none := Option.not_isSome_iff_eq_none.1 ended
        calc (r.steps (n + 1)).reply = (r.extend.steps n).reply := by rw [steps, if_neg ended]
          _ = r.extend.reply.andThen (Machine.stepUpTo n) := ih r.extend
          _ = (r.reply.andThen Machine.step).andThen (Machine.stepUpTo n) := by
            rw [reply_extend going]
          _ = r.reply.andThen (Machine.stepUpTo (n + 1)) := Reply.andThen_assoc _ _ _

end Run

/-! ## Frames -/

namespace Machine

variable {m : Machine}

theorem frame_eq (m : Machine) (n : Nat) : m.frame n = m.countDown.stepUpTo n :=
  (Run.start m.countDown).reply_steps n

/-- A frame may be cut short anywhere and gone on with by single steps. -/
theorem frame_add (m : Machine) (a b : Nat) :
    m.frame (a + b) = (m.frame a).andThen (stepUpTo b) := by
  rw [frame, Run.steps_add, Run.reply_steps, frame]

theorem frame_succ (m : Machine) (n : Nat) : m.frame (n + 1) = (m.frame n).andThen step := by
  have one : stepUpTo 1 = step := funext fun k => Reply.andThen_idle k.step
  rw [frame_add, one]

/-- The machine a tick and `j` steps later, each of them a call of its own. -/
def intoFrame (m : Machine) (j : Nat) : Machine := m.after (.tick :: List.replicate j .step)

/-- What the first `n` of these steps report. -/
def reports (m : Machine) (n : Nat) : List Log.Record :=
  (List.range n).flatMap fun j => (m.intoFrame j).step.log

theorem intoFrame_succ (m : Machine) (j : Nat) :
    m.intoFrame (j + 1) = (m.intoFrame j).step.machine := by
  rw [intoFrame, List.replicate_succ', ← List.cons_append, after, List.foldl_append]
  rfl

theorem reports_succ (m : Machine) (n : Nat) :
    m.reports (n + 1) = m.reports n ++ (m.intoFrame n).step.log := by
  rw [reports, List.range_succ, List.flatMap_append, List.flatMap_singleton, reports]

/-- As long as the single steps succeed, a frame is all of them. -/
theorem frame_of_steps {n : Nat} (ok : ∀ j < n, (m.intoFrame j).step.result = .ok ()) :
    m.frame n = ⟨m.intoFrame n, m.reports n, .ok ()⟩ := by
  induction n with
  | zero => rfl
  | succ n ih =>
      have before := ih fun j below => ok j (Nat.lt_succ_of_lt below)
      rw [frame_succ, before, Reply.andThen_of_ok rfl, ok n (Nat.lt_succ_self n), intoFrame_succ,
        reports_succ]

/-- The first of them that fails is the last of every longer frame. -/
theorem frame_of_fault {k n : Nat} {fault : Fault} (wf : (m.intoFrame k).WellFormed)
    (ok : ∀ j < k, (m.intoFrame j).step.result = .ok ())
    (failed : (m.intoFrame k).step.result = .error fault) (further : k < n) :
    m.frame n = ⟨m.intoFrame k, m.reports (k + 1), .error fault⟩ := by
  have first : m.frame (k + 1) = ⟨m.intoFrame k, m.reports (k + 1), .error fault⟩ := by
    rw [frame_succ, frame_of_steps ok, Reply.andThen_of_ok rfl, failed, reports_succ,
      step_error_machine wf failed]
  obtain ⟨more, rfl⟩ := Nat.exists_eq_add_of_le further
  rw [frame_add, first]
  exact Reply.andThen_of_error rfl

/-- **A frame is one tick and single steps**, and how they are batched is not seen.  On every
machine a host can come to, a frame of `a + b` steps leaves, reports and answers what a frame of
`a` does and, if that succeeded, up to `b` single steps that stop at the first failure.  As long as
the single steps after the tick succeed, a frame of `n` makes exactly `n` of them.  If the first `k`
succeed and the next one fails, a frame of at most `k` still does so, and every longer one answers
with the fault and leaves the machine that the tick and the `k` steps had left. -/
theorem frame_batching (reachable : m.Reachable) :
    (∀ n, m.frame n = m.countDown.stepUpTo n) ∧
      (∀ a b, m.frame (a + b) = (m.frame a).andThen (stepUpTo b)) ∧
      (∀ n, (∀ j < n, (m.intoFrame j).step.result = .ok ()) →
        m.frame n = ⟨m.intoFrame n, m.reports n, .ok ()⟩) ∧
      ∀ k fault, (∀ j < k, (m.intoFrame j).step.result = .ok ()) →
        (m.intoFrame k).step.result = .error fault →
          ∀ n, m.frame n =
            if n ≤ k then ⟨m.intoFrame n, m.reports n, .ok ()⟩
            else ⟨m.intoFrame k, m.reports (k + 1), .error fault⟩ := by
  refine ⟨m.frame_eq, m.frame_add, fun n => frame_of_steps, ?_⟩
  intro k fault ok failed n
  split
  · rename_i short
    exact frame_of_steps fun j below => ok j (Nat.lt_of_lt_of_le below short)
  · rename_i long
    have wf : (m.intoFrame k).WellFormed := (m.trail_history _).wellFormed reachable.wellFormed
    exact frame_of_fault wf ok failed (Nat.lt_of_not_le long)

/-- A machine about to add one to a register and then to return from nowhere. -/
def countThenReturn : Machine := (boot {} 0 (some [0x70, 0x01, 0x00, 0xEE])).machine

/-- A frame of one step succeeds, and one of seven stays where that left the machine. -/
theorem countThenReturn_frames :
    countThenReturn.Reachable ∧
      (∀ j < 1, (countThenReturn.intoFrame j).step.result = .ok ()) ∧
      (countThenReturn.intoFrame 1).step.result = .error (.stackUnderflow 0x204) ∧
      (countThenReturn.frame 1).result = .ok () ∧
      (countThenReturn.frame 7).result = .error (.stackUnderflow 0x204) ∧
      (countThenReturn.frame 7).machine = (countThenReturn.frame 1).machine := by
  have reachable : countThenReturn.Reachable := ⟨{}, 0, some [0x70, 0x01, 0x00, 0xEE], [], rfl⟩
  have wf (j : Nat) : (countThenReturn.intoFrame j).WellFormed :=
    (trail_history _ _).wellFormed reachable.wellFormed
  have ok : ∀ j < 1, (countThenReturn.intoFrame j).step.result = .ok () := by
    intro j below
    obtain rfl := Nat.lt_one_iff.1 below
    have runs : (countThenReturn.intoFrame 0).passed.refusal (countThenReturn.intoFrame 0).next =
        none := by decide +kernel
    exact (step_ok_iff_runs (wf 0).stack.depth_le).2 runs
  have failed : (countThenReturn.intoFrame 1).step.result = .error (.stackUnderflow 0x204) :=
    (step_error_iff (wf 1)).2 (.inl (by decide +kernel))
  obtain ⟨-, -, -, frames⟩ := frame_batching reachable
  have frame := frames 1 _ ok failed
  refine ⟨reachable, ok, failed, ?_, ?_, ?_⟩
  · rw [frame 1]
    rfl
  · rw [frame 7]
    rfl
  · rw [frame 7, frame 1]
    rfl

end Machine

end Chip8
