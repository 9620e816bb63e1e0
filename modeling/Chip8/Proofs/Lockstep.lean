/-
# Chip8.Proofs.Lockstep -- two machines that answer alike

Two machines are told apart only by what calls answer and report.  A relation that one
step, one tick, one key event, one reset and one load keep, with equal answers and equal
reports, is kept by frames and by whole lists of calls.

The most general form is `LockstepMuted calm codes R`.  It asks of a step only that it keeps `R`
where two machines are `calm`, and it lets the two sides press different codes, as long as
`codes` relates them.  Then `R` is kept by any two lists of calls that match, as long as no
step of their histories is made on machines that are not calm, also inside a frame:
`LockstepMuted.performAll`.  What a tick or a question says about sound may differ; where `R`
also keeps whether there is sound, it does not, and that is `LockstepOn`:
`LockstepOn.performAll`.  Two cases of it have names of their own:

* `LockstepWhile quiet R`: the same calls on both sides, and steps of machines that are
  `quiet`; `LockstepWhile.performAll`;
* `Lockstep R`: the same calls on both sides, and any steps; `Lockstep.performAll`.

`Machine.step_rel` is how a relation is shown to be kept by a step, `Machine.load_rel` by a load.
-/
import Chip8.Proofs.Effect
import Chip8.Proofs.History
import Mathlib.Data.List.Forall2

namespace Chip8

set_option autoImplicit false

/-- Two replies with the same answer and the same reports that leave related machines. -/
structure Reply.Rel {α : Type} (R : Machine → Machine → Prop) (r s : Reply α) : Prop where
  result : r.result = s.result
  log : r.log = s.log
  machine : R r.machine s.machine

/-- Two steps are related if they fail or succeed together, report the same, and leave
related machines either way. -/
theorem Machine.step_rel {R : Machine → Machine → Prop} {m n : Machine}
    (same : m.passed.fault? m.next = n.passed.fault? n.next) (logs : m.stepLog = n.stepLog)
    (failed : R m.stalled n.stalled)
    (ran : m.passed.fault? m.next = none → R (m.passed.effect m.next) (n.passed.effect n.next)) :
    m.step.Rel R n.step := by
  rw [m.step_total, n.step_total, ← same]
  cases outcome : m.passed.fault? m.next with
  | some fault => exact ⟨rfl, logs, failed⟩
  | none => exact ⟨rfl, logs, ran outcome⟩

/-- A load answers and reports the same on any two machines, and writes the same to their
memories or nothing. -/
theorem Machine.load_rel {R : Machine → Machine → Prop} {m n : Machine} (rom : List UInt8)
    (loaded : R { m with memory := m.memory.writeBlock Memory.programStart rom }
      { n with memory := n.memory.writeBlock Memory.programStart rom })
    (refused : R m n) : (m.load rom).Rel R (n.load rom) := by
  rw [load_eq, load_eq]
  by_cases short : rom.length ≤ maxRomSize
  · rw [if_pos short, if_pos short]
    exact ⟨rfl, rfl, loaded⟩
  · rw [if_neg short, if_neg short]
    exact ⟨rfl, rfl, refused⟩

/-! ## What a relation must keep -/

/-- What a relation must keep so that two related machines can be told apart by nothing but
their sound until they make a step while they are not calm, by calls that are the same but for
related codes. -/
structure LockstepMuted (calm : Machine → Machine → Prop) (codes : UInt32 → UInt32 → Prop)
    (R : Machine → Machine → Prop) : Prop where
  step : ∀ {m n : Machine}, calm m n → R m n → m.step.Rel R n.step
  countDown : ∀ {m n : Machine}, R m n → R m.countDown n.countDown
  press : ∀ {m n : Machine} {code code' : UInt32} (down : Bool), codes code code' → R m n →
    R (m.press code down) (n.press code' down)
  reset : ∀ {m n : Machine}, R m n → R m.reset n.reset
  load : ∀ {m n : Machine} (rom : List UInt8), R m n → (m.load rom).Rel R (n.load rom)

/-- The same, and whether there is sound: such machines cannot be told apart at all until they
make a step while they are not calm. -/
structure LockstepOn (calm : Machine → Machine → Prop) (codes : UInt32 → UInt32 → Prop)
    (R : Machine → Machine → Prop) : Prop extends LockstepMuted calm codes R where
  isSounding : ∀ {m n : Machine}, R m n → m.isSounding = n.isSounding

/-- What a relation must keep so that two related machines cannot be told apart, by the same
calls, until one of them makes a step that is not quiet. -/
abbrev LockstepWhile (quiet : Machine → Prop) (R : Machine → Machine → Prop) : Prop :=
  LockstepOn (fun m _ => quiet m) (· = ·) R

/-- What a relation must keep so that two related machines can never be told apart. -/
abbrev Lockstep (R : Machine → Machine → Prop) : Prop := LockstepWhile (fun _ => True) R

/-! ## Calls and moments on two sides -/

/-- The same call, or two key events of the same kind whose codes are related. -/
inductive Operation.Matches (codes : UInt32 → UInt32 → Prop) : Operation → Operation → Prop
  | press {code code' : UInt32} (down : Bool) (related : codes code code') :
      Matches codes (.press code down) (.press code' down)
  | same (op : Operation) (other : ∀ code down, op ≠ .press code down) : Matches codes op op

theorem Operation.matches_self (ops : List Operation) :
    List.Forall₂ (Operation.Matches (· = ·)) ops ops := by
  refine List.forall₂_same.2 fun op _ => ?_
  cases op with
  | press code down => exact .press down rfl
  | _ => exact .same _ nofun

/-- Every step among the moments is made on a quiet machine. -/
def QuietOn (quiet : Machine → Prop) (moments : List Moment) : Prop :=
  ∀ k ∈ moments, k.call = .step → quiet k.machine

instance (quiet : Machine → Prop) [DecidablePred quiet] (moments : List Moment) :
    Decidable (QuietOn quiet moments) :=
  inferInstanceAs (Decidable (∀ k ∈ moments, k.call = .step → quiet k.machine))

/-- Every step among two lists of moments, taken side by side, is made on calm machines. -/
def CalmOn (calm : Machine → Machine → Prop) (left right : List Moment) : Prop :=
  ∀ p ∈ left.zip right, p.1.call = .step → calm p.1.machine p.2.machine

instance (calm : Machine → Machine → Prop) [∀ m n, Decidable (calm m n)]
    (left right : List Moment) : Decidable (CalmOn calm left right) :=
  inferInstanceAs
    (Decidable (∀ p ∈ left.zip right, p.1.call = .step → calm p.1.machine p.2.machine))

namespace CalmOn

variable {calm : Machine → Machine → Prop} {left right left' right' : List Moment} {j k : Moment}

theorem head (quiet : CalmOn calm (j :: left) (k :: right)) (step : j.call = .step) :
    calm j.machine k.machine :=
  quiet (j, k) List.mem_cons_self step

theorem tail (quiet : CalmOn calm (j :: left) (k :: right)) : CalmOn calm left right :=
  fun p member => quiet p (List.mem_cons_of_mem _ member)

/-- Moments that come first on both sides stand side by side, however many there are. -/
theorem of_append (quiet : CalmOn calm (left ++ left') (right ++ right')) :
    CalmOn calm left right := by
  induction left generalizing right with
  | nil =>
      intro p member
      cases member
  | cons j left ih =>
      cases right with
      | nil =>
          intro p member
          cases member
      | cons k right =>
          intro p member step
          rcases List.mem_cons.1 member with rfl | further
          · exact quiet.head step
          · exact ih quiet.tail p further step

theorem of_append_right (quiet : CalmOn calm (left ++ left') (right ++ right'))
    (length : left.length = right.length) : CalmOn calm left' right' := by
  unfold CalmOn at quiet
  rw [List.zip_append length] at quiet
  exact fun p member => quiet p (List.mem_append_right _ member)

end CalmOn

/-- Two runs at related machines that agree on all the rest. -/
structure Lockstep.SameRun (R : Machine → Machine → Prop) (r s : Run) : Prop where
  machine : R r.machine s.machine
  trail : r.trail = s.trail
  ran : r.ran = s.ran
  fault : r.fault = s.fault

theorem Reply.Rel.answered {R : Machine → Machine → Prop} {r s : Reply Unit} (same : r.Rel R s) :
    r.answered.Rel R s.answered := by
  obtain ⟨result, log, machine⟩ := same
  exact ⟨by simp only [Reply.answered, result], log, machine⟩

/-! ## Answers without sound -/

/-- The answer, with what it says about sound left out. -/
def Answer.muted : Answer → Answer
  | .sounding _ => .sounding false
  | .done => .done

/-- Two replies that are related but for what their answers say about sound. -/
structure Reply.RelMuted (R : Machine → Machine → Prop) (r s : Reply Answer) : Prop where
  result : r.result.map Answer.muted = s.result.map Answer.muted
  log : r.log = s.log
  machine : R r.machine s.machine

theorem Reply.Rel.muted {R : Machine → Machine → Prop} {r s : Reply Answer} (same : r.Rel R s) :
    r.RelMuted R s :=
  ⟨congrArg _ same.result, same.log, same.machine⟩

/-- Two results that are equal but for what they say about sound are equal if they say the same
about it. -/
theorem Answer.eq_of_muted {a b : Except Fault Answer}
    (muted : a.map Answer.muted = b.map Answer.muted)
    (sound : ∀ x y, a = .ok (.sounding x) → b = .ok (.sounding y) → x = y) : a = b := by
  cases a with
  | error fault =>
      cases b with
      | error fault' => exact congrArg _ (Except.error.inj muted)
      | ok answer => cases muted
  | ok answer =>
      cases b with
      | error fault => cases muted
      | ok answer' =>
          cases answer with
          | done =>
              cases answer' with
              | done => rfl
              | sounding y => cases muted
          | sounding x =>
              cases answer' with
              | done => cases muted
              | sounding y => rw [sound x y rfl rfl]

theorem Reply.RelMuted.rel {R : Machine → Machine → Prop} {r s : Reply Answer}
    (same : r.RelMuted R s)
    (sound : ∀ a b, r.result = .ok (.sounding a) → s.result = .ok (.sounding b) → a = b) :
    r.Rel R s :=
  ⟨Answer.eq_of_muted same.result sound, same.log, same.machine⟩

/-- What a call says about sound is true of the machine it leaves. -/
theorem Machine.eq_isSounding {m : Machine} {op : Operation} {on : Bool}
    (said : (m.perform op).result = .ok (.sounding on)) :
    on = (m.perform op).machine.isSounding := by
  have silent (r : Reply Unit) : r.answered.result ≠ .ok (.sounding on) := by
    intro told
    unfold Reply.answered at told
    cases outcome : r.result with
    | error fault => simp [outcome, Except.map] at told
    | ok => simp [outcome, Except.map] at told
  cases op with
  | tick | listen =>
      cases said
      rfl
  | press code down | reset => cases said
  | step | frame n | load rom | loadFile path content => exact absurd said (silent _)

/-! ## Lists of calls -/

/-- Where a relation and what is said are kept by each call, they are kept by lists of calls
that match. -/
theorem Machine.performAll_related {calm : Machine → Machine → Prop}
    {codes : UInt32 → UInt32 → Prop} {R : Machine → Machine → Prop}
    {said : Reply Answer → Reply Answer → Prop}
    (one : ∀ {m n : Machine} {op op' : Operation}, op.Matches codes op' → R m n →
      CalmOn calm (m.momentsOf op) (n.momentsOf op') →
      said (m.perform op) (n.perform op') ∧ R (m.perform op).machine (n.perform op').machine ∧
        (m.momentsOf op).length = (n.momentsOf op').length)
    {m n : Machine} {ops ops' : List Operation}
    (matched : List.Forall₂ (Operation.Matches codes) ops ops') (related : R m n)
    (quiet : CalmOn calm (m.history ops) (n.history ops')) :
    List.Forall₂ said (m.performAll ops) (n.performAll ops') := by
  induction matched generalizing m n with
  | nil => exact .nil
  | cons first _ ih =>
      obtain ⟨now, further, lengths⟩ := one first related quiet.of_append
      exact .cons now (ih further (quiet.of_append_right lengths))

namespace LockstepMuted

open Lockstep (SameRun)

variable {calm : Machine → Machine → Prop} {codes : UInt32 → UInt32 → Prop}
  {R : Machine → Machine → Prop} {m n : Machine}

theorem extend (lockstep : LockstepMuted calm codes R) {r s : Run} (now : calm r.machine s.machine)
    (same : SameRun R r s) : SameRun R r.extend s.extend := by
  obtain ⟨result, log, machine⟩ := lockstep.step now same.machine
  unfold Run.extend
  simp only [result, log, same.trail, same.ran]
  split <;> exact ⟨machine, rfl, rfl, rfl⟩

/-- Steps in a row.  They end after as many moments on one side as on the other, so that what
comes after them stands side by side again. -/
theorem steps (lockstep : LockstepMuted calm codes R) (k : Nat) {r s : Run}
    (going : r.fault = none) (same : SameRun R r s)
    (quiet : CalmOn calm (Machine.stepMoments k r.machine) (Machine.stepMoments k s.machine)) :
    SameRun R (r.steps k) (s.steps k) ∧
      (Machine.stepMoments k r.machine).length = (Machine.stepMoments k s.machine).length := by
  induction k generalizing r s with
  | zero => exact ⟨same, rfl⟩
  | succ k ih =>
      have now : calm r.machine s.machine := quiet.head rfl
      have further := lockstep.extend now same
      have results := (lockstep.step now same.machine).result
      simp only [Run.steps, ← same.fault, going, Option.isSome_none, Bool.false_eq_true, if_false,
        Machine.stepMoments, ← results]
      simp only [Machine.stepMoments, ← results] at quiet
      -- Both results are equal by now, so the two runs go on together or end together.
      cases outcome : r.machine.step.result with
      | ok =>
          have onward : r.extend.fault = none := by simp [Run.extend, outcome]
          simp only [outcome, ← Run.extend_machine] at quiet
          obtain ⟨runs, lengths⟩ := ih onward further quiet.tail
          refine ⟨runs, ?_⟩
          simpa only [← Run.extend_machine, List.length_cons, Nat.add_right_cancel_iff]
            using lengths
      | error fault =>
          have ended : r.extend.fault.isSome := by simp [Run.extend, outcome]
          rw [Run.steps_of_fault ended, Run.steps_of_fault (further.fault ▸ ended)]
          exact ⟨further, rfl⟩

theorem frame (lockstep : LockstepMuted calm codes R) (k : Nat) (related : R m n)
    (quiet : CalmOn calm (m.momentsOf (.frame k)) (n.momentsOf (.frame k))) :
    (m.frame k).Rel R (n.frame k) ∧
      (m.momentsOf (.frame k)).length = (n.momentsOf (.frame k)).length := by
  have start : SameRun R (Run.start m.countDown) (Run.start n.countDown) :=
    ⟨lockstep.countDown related, rfl, rfl, rfl⟩
  obtain ⟨⟨machine, trail, -, fault⟩, lengths⟩ := lockstep.steps k rfl start quiet.tail
  refine ⟨?_, congrArg (· + 1) lengths⟩
  unfold Machine.frame Run.reply Run.log
  exact ⟨by simp only [fault], by simp only [trail], machine⟩

theorem perform (lockstep : LockstepMuted calm codes R) {op op' : Operation}
    (matched : op.Matches codes op') (related : R m n)
    (quiet : CalmOn calm (m.momentsOf op) (n.momentsOf op')) :
    (m.perform op).RelMuted R (n.perform op') ∧
      (m.momentsOf op).length = (n.momentsOf op').length := by
  cases matched with
  | press down codesRelated => exact ⟨⟨rfl, rfl, lockstep.press down codesRelated related⟩, rfl⟩
  | same _ other =>
      cases op with
      | press code down => exact absurd rfl (other code down)
      | frame k =>
          obtain ⟨framed, lengths⟩ := lockstep.frame k related quiet
          exact ⟨framed.answered.muted, lengths⟩
      | step => exact ⟨(lockstep.step (quiet.head rfl) related).answered.muted, rfl⟩
      | tick => exact ⟨⟨rfl, rfl, lockstep.countDown related⟩, rfl⟩
      | listen => exact ⟨⟨rfl, rfl, related⟩, rfl⟩
      | reset => exact ⟨⟨rfl, rfl, lockstep.reset related⟩, rfl⟩
      | load rom => exact ⟨(lockstep.load rom related).answered.muted, rfl⟩
      | loadFile path content =>
          cases content with
          | none => exact ⟨⟨rfl, rfl, related⟩, rfl⟩
          | some rom => exact ⟨(lockstep.load rom related).answered.muted, rfl⟩

/-- **Two related machines differ in their sound alone while they are calm**: if no step of two
lists of calls that match is made on machines that are not, every call answers the same as its
match but for what it says about sound, reports the same, and the two leave related machines. -/
theorem performAll (lockstep : LockstepMuted calm codes R) {ops ops' : List Operation}
    (matched : List.Forall₂ (Operation.Matches codes) ops ops') (related : R m n)
    (quiet : CalmOn calm (m.history ops) (n.history ops')) :
    List.Forall₂ (Reply.RelMuted R) (m.performAll ops) (n.performAll ops') := by
  apply Machine.performAll_related _ matched related quiet
  intro m n op op' first now calmly
  obtain ⟨same, lengths⟩ := lockstep.perform first now calmly
  exact ⟨same, same.machine, lengths⟩

end LockstepMuted

namespace LockstepOn

variable {calm : Machine → Machine → Prop} {codes : UInt32 → UInt32 → Prop}
  {R : Machine → Machine → Prop} {m n : Machine}

theorem perform (lockstep : LockstepOn calm codes R) {op op' : Operation}
    (matched : op.Matches codes op') (related : R m n)
    (quiet : CalmOn calm (m.momentsOf op) (n.momentsOf op')) :
    (m.perform op).Rel R (n.perform op') ∧
      (m.momentsOf op).length = (n.momentsOf op').length := by
  obtain ⟨same, lengths⟩ := lockstep.toLockstepMuted.perform matched related quiet
  have sound : ∀ a b, (m.perform op).result = .ok (.sounding a) →
      (n.perform op').result = .ok (.sounding b) → a = b := by
    intro a b said said'
    rw [Machine.eq_isSounding said, Machine.eq_isSounding said']
    exact lockstep.isSounding same.machine
  exact ⟨same.rel sound, lengths⟩

/-- **Two related machines are not told apart while they are calm**: if no step of two lists
of calls that match is made on machines that are not, every call answers and reports the same
as its match and the two leave related machines. -/
theorem performAll (lockstep : LockstepOn calm codes R) {ops ops' : List Operation}
    (matched : List.Forall₂ (Operation.Matches codes) ops ops') (related : R m n)
    (quiet : CalmOn calm (m.history ops) (n.history ops')) :
    List.Forall₂ (Reply.Rel R) (m.performAll ops) (n.performAll ops') := by
  apply Machine.performAll_related _ matched related quiet
  intro m n op op' first now calmly
  obtain ⟨same, lengths⟩ := lockstep.perform first now calmly
  exact ⟨same, same.machine, lengths⟩

end LockstepOn

/-- **Two related machines are not told apart while it is quiet**: if no step of a common
list of calls is made on a machine that is not, every call answers and reports the same on
both and leaves them related. -/
theorem LockstepWhile.performAll {quiet : Machine → Prop} {R : Machine → Machine → Prop}
    {m n : Machine} (lockstep : LockstepWhile quiet R) (ops : List Operation)
    (calm : QuietOn quiet (m.history ops)) (related : R m n) :
    List.Forall₂ (Reply.Rel R) (m.performAll ops) (n.performAll ops) :=
  LockstepOn.performAll lockstep (Operation.matches_self ops) related
    fun p member => calm p.1 (List.of_mem_zip member).1

/-- **Two related machines are never told apart**: every call of a common list answers and
reports the same on both and leaves them related. -/
theorem Lockstep.performAll {R : Machine → Machine → Prop} {m n : Machine}
    (lockstep : Lockstep R) (ops : List Operation) (related : R m n) :
    List.Forall₂ (Reply.Rel R) (m.performAll ops) (n.performAll ops) :=
  LockstepWhile.performAll lockstep ops (fun _ _ _ => trivial) related

end Chip8
