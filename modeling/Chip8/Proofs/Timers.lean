/-
# Chip8.Proofs.Timers -- a timer by its history

A timer holds the value last put in it, less one for each tick since then, and stops at zero.
Only one instruction puts a value in each of the two timers, a reset puts zero in both, and they
run together: once for a tick, and once for a frame, before its first step and whatever comes of
its steps.

* `Moment.puts?`: the value that a moment put in a timer; `ticks`: how many ticks some moments
  hold;
* `Timer.remaining`: what a timer should hold, read off the moments since the last reset;
* `atom_timer`: one call of the host puts a value in a timer, lets it run, or keeps it;
* `ticks_history`: the ticks of a history are the ticks and frames that the host called;
* `timers_account`: so every timer holds what it should, over any run, and what is read off a
  timer is that.
-/
import Chip8.Proofs.CallDiscipline
import Chip8.Proofs.Frame

namespace Chip8

set_option autoImplicit false

/-! ## Values and ticks -/

inductive Timer
  | delay
  | sound
  deriving DecidableEq, Repr

namespace Timer

def value (t : Timer) (m : Machine) : UInt8 :=
  match t with
  | delay => m.delay
  | sound => m.sound

/-- The value an instruction puts in a timer, if it is the one that sets it. -/
def putBy? (t : Timer) (m : Machine) (i : Instruction) : Option UInt8 :=
  match t, i with
  | delay, .setDelay x | sound, .setSound x => some (m.val x)
  | _, _ => none

end Timer

/-- The value that a moment put in a timer: it was an executed instruction that sets it. -/
def Moment.puts? (k : Moment) (t : Timer) : Option UInt8 := k.executed?.bind (t.putBy? k.machine)

/-- The calls that let the timers run. -/
def Operation.isTick : Operation → Bool
  | .tick | .frame _ => true
  | _ => false

def ticks (moments : List Moment) : Nat := moments.countP (·.call.isTick)

namespace Timer

variable (t : Timer)

/-- The value last put in a timer, zero if there was none. -/
def lastPut (moments : List Moment) : UInt8 := (latest (·.puts? t) moments).getD 0

/-- The moments after the last one that put a value in a timer. -/
def sincePut (moments : List Moment) : List Moment := since (fun k => (k.puts? t).isSome) moments

/-- What a timer should hold after some moments. -/
def remaining (past : List Moment) : Nat :=
  (lastPut t (sinceReset past)).toNat - ticks (sincePut t (sinceReset past))

theorem lastPut_concat (moments : List Moment) (k : Moment) :
    lastPut t (moments ++ [k]) = (k.puts? t).getD (lastPut t moments) := by
  rw [lastPut, latest_concat, Option.getD_or, lastPut]

theorem sincePut_concat (moments : List Moment) (k : Moment) :
    sincePut t (moments ++ [k]) =
      if (k.puts? t).isSome then [] else sincePut t moments ++ [k] :=
  since_concat _ moments k

/-- After a reset nothing remains, after a put all of it, and a tick takes one away. -/
theorem remaining_concat (past : List Moment) (k : Moment) :
    remaining t (past ++ [k]) =
      if k.call = .reset then 0
      else match k.puts? t with
        | some v => v.toNat
        | none => remaining t past - if k.call.isTick then 1 else 0 := by
  unfold remaining
  rw [sinceReset_concat]
  by_cases reset : k.call = .reset
  · rw [if_pos reset, if_pos reset]
    rfl
  · rw [if_neg reset, if_neg reset, lastPut_concat, sincePut_concat]
    cases put : k.puts? t with
    | some v => rfl
    | none =>
        simp only [Option.isSome_none, Bool.false_eq_true, if_false, Option.getD_none, ticks,
          List.countP_append, List.countP_singleton]
        omega

end Timer

namespace Machine

variable {m : Machine}

/-! ## One moment -/

theorem value_countDown (t : Timer) (m : Machine) :
    (t.value m.countDown).toNat = (t.value m).toNat - 1 := by
  have down (a : UInt8) : (if a = 0 then 0 else a - 1).toNat = a.toNat - 1 := by
    by_cases zero : a = 0
    · rw [if_pos zero, zero]
      rfl
    · have nonzero : a.toNat ≠ 0 := by
        intro none
        exact zero (UInt8.toNat.inj none)
      have positive : 1 ≤ a := UInt8.le_iff_toNat_le.2 (Nat.pos_of_ne_zero nonzero)
      rw [if_neg zero, UInt8.toNat_sub_of_le _ _ positive]
      rfl
  cases t with
  | delay => exact down m.delay
  | sound => exact down m.sound

theorem value_effect (t : Timer) (m : Machine) (i : Instruction) :
    t.value (m.effect i) = (t.putBy? m i).getD (t.value m) := by
  rw [effect_parts]
  cases t with
  | delay => cases i <;> rfl
  | sound => cases i <;> rfl

theorem value_step (t : Timer) (wf : m.WellFormed) :
    t.value m.step.machine = (Moment.puts? ⟨m, .step⟩ t).getD (t.value m) := by
  rcases step_cases wf with ⟨executed, ran⟩ | ⟨refused, nothing⟩
  · rw [Moment.puts?, executed, ran, value_effect]
    rfl
  · rw [Moment.puts?, refused, nothing]
    rfl

theorem value_load (t : Timer) (m : Machine) (rom : List UInt8) :
    t.value (m.load rom).machine = t.value m := by
  rw [load_parts]
  rfl

/-- **What one call does to a timer**, if it is no reset: it puts a value in it, lets it run, or
keeps it. -/
theorem atom_timer (t : Timer) (wf : m.WellFormed) {op : Operation} (atom : op.IsAtom)
    (kept : op ≠ .reset) :
    (t.value (m.perform op).machine).toNat =
      match Moment.puts? ⟨m, op⟩ t with
      | some v => v.toNat
      | none => (t.value m).toNat - if op.isTick then 1 else 0 := by
  cases op with
  | step =>
      have stepped := congrArg UInt8.toNat (value_step t wf)
      cases put : Moment.puts? ⟨m, .step⟩ t with
      | some v =>
          rw [put] at stepped
          exact stepped
      | none =>
          rw [put] at stepped
          exact stepped
  | frame n => exact atom.elim
  | tick => exact value_countDown t m
  | listen | press _ _ =>
      cases t with
      | delay => rfl
      | sound => rfl
  | reset => exact absurd rfl kept
  | load rom => exact congrArg UInt8.toNat (value_load t m rom)
  | loadFile path content =>
      cases content with
      | none => rfl
      | some rom => exact congrArg UInt8.toNat (value_load t m rom)

theorem value_fresh (t : Timer) (random : Random.Stream) (config : Config) :
    t.value (fresh random config) = 0 := by
  cases t with
  | delay => rfl
  | sound => rfl

theorem value_boot (t : Timer) (config : Config) (drawn : UInt64) (rom : Option (List UInt8)) :
    t.value (boot config drawn rom).machine = 0 := by
  have started : t.value (start config drawn) = 0 := value_fresh t _ config
  cases rom with
  | none => exact started
  | some rom => exact (value_load t _ rom).trans started

/-- An executed `readDelay` puts the delay timer's value in its register. -/
theorem get_of_readDelay {k : Moment} {x : UInt8} (executed : k.executed? = some (.readDelay x)) :
    Table.get k.after.v (slotOf x.toNat) = k.machine.delay := by
  obtain ⟨-, -, after⟩ := Moment.of_executed? executed
  rw [after, effect, get_put, if_pos rfl]
  rfl

/-! ## Ticks -/

theorem ticks_eq_zero {moments : List Moment} (steps : ∀ k ∈ moments, k.call = .step) :
    ticks moments = 0 := by
  apply List.countP_eq_zero.2
  intro k member
  rw [steps k member]
  exact Bool.false_ne_true

/-- A call holds one tick if it lets the timers run, however many steps it makes, and else
none. -/
theorem ticks_momentsOf (m : Machine) (op : Operation) :
    ticks (m.momentsOf op) = if op.isTick then 1 else 0 := by
  cases op with
  | frame n =>
      have steps : ticks (stepMoments n m.countDown) = 0 :=
        ticks_eq_zero fun _ => call_of_mem_stepMoments
      show ticks ((⟨m, .tick⟩ : Moment) :: stepMoments n m.countDown) = 1
      rw [ticks, List.countP_cons_of_pos rfl]
      exact congrArg (· + 1) steps
  | _ => rfl

theorem ticks_history (m : Machine) (ops : List Operation) :
    ticks (m.history ops) = ops.countP Operation.isTick := by
  induction ops generalizing m with
  | nil => rfl
  | cons op ops ih =>
      rw [history, ticks, List.countP_append, List.countP_cons]
      have now : List.countP _ (m.momentsOf op) = _ := m.ticks_momentsOf op
      have further : List.countP _ ((m.perform op).machine.history ops) = _ := ih _
      rw [now, further, Nat.add_comm]

end Machine

/-! ## Runs -/

theorem Trail.timer_eq {m k : Machine} {past : List Moment} (t : Timer) (trail : Trail m past k)
    (wf : m.WellFormed) (zero : t.value m = 0) : (t.value k).toNat = t.remaining past := by
  induction trail with
  | nil =>
      rw [zero]
      rfl
  | @snoc past k before op atom ih =>
      rw [Timer.remaining_concat]
      by_cases reset : op = .reset
      · subst reset
        exact congrArg UInt8.toNat (Machine.value_fresh t _ _)
      · rw [if_neg reset, Machine.atom_timer t (before.wellFormed wf) atom reset, ih]

namespace Machine

/-- **Timers over whole runs.**  After any calls of a host, and before and after each single one
they come down to, both timers hold the value last put in them since the last reset, less one
for each tick since then, and no less than zero.  A tick and a question for sound answer by what
the sound timer holds after them, and an executed `readDelay` takes what the delay timer holds.
There are as many ticks as ticks and frames were called; that of a frame comes before its
steps. -/
theorem timers_account (config : Config) (drawn : UInt64) (rom : Option (List UInt8))
    (ops : List Operation) :
    let start := (boot config drawn rom).machine
    let past := start.history ops
    (∀ t : Timer, (t.value (start.after ops)).toNat = t.remaining past) ∧
      (∀ earlier k later, past = earlier ++ k :: later →
        (∀ t : Timer, (t.value k.machine).toNat = t.remaining earlier ∧
          (t.value k.after).toNat = t.remaining (earlier ++ [k])) ∧
        (k.call = .tick ∨ k.call = .listen → (k.machine.perform k.call).result =
          .ok (.sounding (0 < Timer.sound.remaining (earlier ++ [k])))) ∧
        ∀ x, k.executed? = some (.readDelay x) →
          (Table.get k.after.v (slotOf x.toNat)).toNat = Timer.delay.remaining earlier) ∧
      ticks past = ops.countP Operation.isTick ∧
      ∀ (m : Machine) (n : Nat), ∃ steps, m.momentsOf (.frame n) = ⟨m, .tick⟩ :: steps ∧
        (∀ k ∈ steps, k.call = .step) ∧ steps.length ≤ n ∧
        Trail m.countDown steps (m.perform (.frame n)).machine := by
  intro start past
  have trail : Trail start past (start.after ops) := start.trail_history ops
  have wfs : start.WellFormed := boot_wellFormed config drawn rom
  have holds {moments : List Moment} {k : Machine} (reached : Trail start moments k) (t : Timer) :
      (t.value k).toNat = t.remaining moments :=
    reached.timer_eq t wfs (value_boot t config drawn rom)
  refine ⟨holds trail, ?_, start.ticks_history ops, ?_⟩
  · intro earlier k later whole
    rw [whole] at trail
    obtain ⟨upTo, atom⟩ := trail.upTo
    have onward : Trail start (earlier ++ [k]) k.after := upTo.snoc k.call atom
    refine ⟨?_, ?_, ?_⟩
    · intro t
      exact ⟨holds upTo t, holds onward t⟩
    · intro asked
      rw [← holds onward .sound]
      obtain ⟨m, op⟩ := k
      rcases asked with tick | listen
      · obtain rfl : op = .tick := tick
        rfl
      · obtain rfl : op = .listen := listen
        rfl
    · intro x executed
      rw [← holds upTo .delay, get_of_readDelay executed]
      rfl
  · intro m n
    exact ⟨stepMoments n m.countDown, rfl, fun _ => call_of_mem_stepMoments,
      length_stepMoments_le n _, Run.trail_steps n (r := Run.start m.countDown) rfl⟩

/-- A machine about to put five in the delay timer and then to return from nowhere. -/
def shortTimer : Machine := (boot {} 0 (some [0x60, 0x05, 0xF0, 0x15, 0x00, 0xEE])).machine

/-- Its second frame fails at once, and has let the timer run all the same. -/
example : (shortTimer.after [.frame 2, .frame 9, .step]).delay = 4 := by decide +kernel

end Machine

end Chip8
