/-
# Chip8.Proofs.Commuting -- calls that may change places

A step, a tick and a key event are made by different parts of a host, and in what order they
come is often a matter of chance.  It is a matter of no consequence either, unless the step looks
at what the other call moves: at the timers or at the keypad.  Ticks and key events never meet,
and two key events only at the same key, where the later one stands.

* `Interchange m a b`: on `m` the calls `a` and `b` lead to the same machine in either order, and
  each answers and reports the same;
* `interchange_step_tick`, `interchange_step_press`, `interchange_tick_press`,
  `interchange_press_press`: the four kinds of neighbours, each with its condition;
* `Swap m`: two schedules that differ by one such pair of neighbours;
* `independent_calls_commute`: so schedules that differ by any number of swaps lead to the same
  machine, by steps that answer the same.
-/
import Chip8.Proofs.View
import Mathlib.Logic.Relation

namespace Chip8

set_option autoImplicit false

/-! ## Keys -/

namespace Keymap

/-- Two codes give the same key. -/
def Share (k : Keymap) (code code' : UInt32) : Prop :=
  ∃ key, k.key? code = some key ∧ k.key? code' = some key

theorem key?_lt {k : Keymap} {code : UInt32} {key : UInt8} (bound : k.key? code = some key) :
    key.toNat < 16 := by
  obtain ⟨i, found, rfl⟩ := Option.map_eq_some_iff.1 bound
  obtain ⟨inside, -, -⟩ := List.findIdx?_eq_some_iff_getElem.1 found
  have small : i < 16 := by simpa using inside
  rw [UInt8.toNat_ofNat']
  omega

end Keymap

namespace Keypad

variable (keys : Keypad)

theorem set_comm {key key' : UInt8} {down down' : Bool}
    (apart : keySlot key = keySlot key' → down = down') :
    (keys.set key down).set key' down' = (keys.set key' down').set key down := by
  simp only [set, Table.set_comm _ apart]

theorem press_comm (keymap : Keymap) {code code' : UInt32} {down down' : Bool}
    (apart : down = down' ∨ ¬ keymap.Share code code') :
    (keys.press keymap code down).press keymap code' down' =
      (keys.press keymap code' down').press keymap code down := by
  cases first : keymap.key? code with
  | none => simp only [press, first]
  | some key =>
      cases second : keymap.key? code' with
      | none => simp only [press, first, second]
      | some key' =>
          simp only [press, first, second]
          apply keys.set_comm
          intro slots
          rcases apart with same | unshared
          · exact same
          · -- Both keys are below sixteen, so keys of one slot are one key.
            have low := Keymap.key?_lt first
            have low' := Keymap.key?_lt second
            have remainder : key.toNat % 16 = key'.toNat % 16 := congrArg Fin.val slots
            have same : key = key' := by
              refine UInt8.toNat.inj ?_
              omega
            exact absurd ⟨key, first, same ▸ second⟩ unshared

end Keypad

/-- Opcodes Fx07, Fx15 and Fx18. -/
def Instruction.usesTimers : Instruction → Bool
  | readDelay _ | setDelay _ | setSound _ => true
  | _ => false

namespace Machine

variable {m : Machine}

/-! ## Steps -/

theorem timers_of_untimed {i : Instruction} (untimed : ¬ i.usesTimers) (m : Machine) :
    m.delayAfter i = m.delay ∧ m.soundAfter i = m.sound := by
  cases i with
  | readDelay _ | setDelay _ | setSound _ => exact absurd rfl untimed
  | _ => exact ⟨rfl, rfl⟩

/-- A step that does not use the timers does the same before a tick and after it, and leaves the
sound timer alone. -/
theorem step_countDown (untimed : ¬ m.next.usesTimers) :
    m.step.Rel (fun p q => q = p.countDown ∧ p.sound = m.sound) m.countDown.step := by
  have view : m.next.SameView m m.countDown :=
    { core := ⟨rfl, rfl, rfl, rfl, rfl⟩
      delay := fun x spelled => absurd (spelled ▸ rfl) untimed }
  refine step_of_sameView view ⟨rfl, rfl⟩ ?_
  obtain ⟨delay, sound⟩ := timers_of_untimed untimed m.passed
  obtain ⟨delay', sound'⟩ := timers_of_untimed untimed m.countDown.passed
  rw [effect_parts m.passed, delay, sound, delay', sound']
  exact ⟨rfl, rfl⟩

/-- A step that does not ask for keys does the same before a key event and after it. -/
theorem step_press (deaf : ¬ m.next.asksKeypad) (code : UInt32) (down : Bool) :
    m.step.Rel (fun p q => q = p.press code down) (m.press code down).step := by
  have view : m.next.SameView m (m.press code down) :=
    { core := ⟨rfl, rfl, rfl, rfl, rfl⟩
      keypad := fun asks => absurd asks deaf }
  refine step_of_sameView view rfl ?_
  rw [effect_parts m.passed]
  rfl

/-! ## Two calls -/

/-- In either order two calls lead to the same machine, and each answers and reports the same. -/
structure Interchange (m : Machine) (a b : Operation) : Prop where
  machine : m.after [a, b] = m.after [b, a]
  left : (m.perform a).Rel (fun _ _ => True) ((m.perform b).machine.perform a)
  right : (m.perform b).Rel (fun _ _ => True) ((m.perform a).machine.perform b)

theorem interchange_step_tick (untimed : ¬ m.next.usesTimers) : m.Interchange .step .tick := by
  obtain ⟨result, log, machine, sound⟩ := step_countDown untimed
  have sounding : m.step.machine.countDown.isSounding = m.countDown.isSounding :=
    congrArg (fun s : UInt8 => decide (0 < if s = 0 then 0 else s - 1)) sound
  constructor
  · exact machine.symm
  · refine ⟨?_, log, trivial⟩
    simp only [perform, Reply.answered, result]
  · refine ⟨?_, rfl, trivial⟩
    simp only [perform, Reply.answered, sounding]

theorem interchange_step_press (deaf : ¬ m.next.asksKeypad) (code : UInt32) (down : Bool) :
    m.Interchange .step (.press code down) := by
  obtain ⟨result, log, machine⟩ := step_press deaf code down
  constructor
  · exact machine.symm
  · refine ⟨?_, log, trivial⟩
    simp only [perform, Reply.answered, result]
  · exact ⟨rfl, rfl, trivial⟩

theorem interchange_tick_press (m : Machine) (code : UInt32) (down : Bool) :
    m.Interchange .tick (.press code down) :=
  ⟨rfl, ⟨rfl, rfl, trivial⟩, ⟨rfl, rfl, trivial⟩⟩

theorem interchange_press_press {code code' : UInt32} {down down' : Bool}
    (apart : down = down' ∨ ¬ m.config.keymap.Share code code') :
    m.Interchange (.press code down) (.press code' down') := by
  have keys := m.keypad.press_comm m.config.keymap apart
  constructor
  · show (m.press code down).press code' down' = (m.press code' down').press code down
    simp only [press, keys]
  · exact ⟨rfl, rfl, trivial⟩
  · exact ⟨rfl, rfl, trivial⟩

/-! ## Schedules -/

/-- Two neighbours of a schedule that may change places. -/
inductive Independent (m : Machine) : Operation → Operation → Prop
  | step_tick (untimed : ¬ m.next.usesTimers) : Independent m .step .tick
  | step_press (deaf : ¬ m.next.asksKeypad) (code : UInt32) (down : Bool) :
      Independent m .step (.press code down)
  | tick_press (code : UInt32) (down : Bool) : Independent m .tick (.press code down)
  | press_press {code code' : UInt32} {down down' : Bool}
      (apart : down = down' ∨ ¬ m.config.keymap.Share code code') :
      Independent m (.press code down) (.press code' down')

/-- Two schedules that differ by neighbours that have changed places. -/
inductive Swap (m : Machine) : List Operation → List Operation → Prop
  | neighbours (before : List Operation) {a b : Operation} (later : List Operation)
      (free : (m.after before).Independent a b) :
      Swap m (before ++ a :: b :: later) (before ++ b :: a :: later)

/-- What the steps of a schedule answer, one after another. -/
def stepAnswers (m : Machine) : List Operation → List (Except Fault Answer)
  | [] => []
  | op :: ops =>
      (if op = .step then [(m.perform op).result] else []) ++ (m.perform op).machine.stepAnswers ops

theorem after_append (m : Machine) (ops further : List Operation) :
    m.after (ops ++ further) = (m.after ops).after further :=
  List.foldl_append

theorem stepAnswers_append (m : Machine) (ops further : List Operation) :
    m.stepAnswers (ops ++ further) = m.stepAnswers ops ++ (m.after ops).stepAnswers further := by
  induction ops generalizing m with
  | nil => rfl
  | cons op ops ih =>
      rw [List.cons_append, stepAnswers, ih, stepAnswers, List.append_assoc]
      rfl

theorem Independent.interchange {a b : Operation} (free : m.Independent a b) :
    m.Interchange a b := by
  cases free with
  | step_tick untimed => exact interchange_step_tick untimed
  | step_press deaf code down => exact interchange_step_press deaf code down
  | tick_press code down => exact interchange_tick_press m code down
  | press_press apart => exact interchange_press_press apart

/-- Of two independent neighbours one at most is a step, and it answers the same. -/
theorem Independent.stepAnswers_eq {a b : Operation} (free : m.Independent a b) :
    m.stepAnswers [a, b] = m.stepAnswers [b, a] := by
  have result := free.interchange.left.result
  cases free with
  | step_tick untimed => exact congrArg ([·]) result
  | step_press deaf code down => exact congrArg ([·]) result
  | tick_press code down => rfl
  | press_press apart => rfl

theorem Swap.same {ops ops' : List Operation} (swap : m.Swap ops ops') :
    m.after ops = m.after ops' ∧ m.stepAnswers ops = m.stepAnswers ops' := by
  cases swap with
  | @neighbours before a b later free =>
      have machine := free.interchange.machine
      have pair (a b : Operation) : before ++ a :: b :: later = before ++ ([a, b] ++ later) := rfl
      rw [pair, pair]
      constructor
      · simp only [after_append, machine]
      · simp only [stepAnswers_append, machine, free.stepAnswers_eq]

/-- **Independent calls commute.**  A step and a tick may change places unless the instruction
uses the timers, a step and a key event unless it asks for keys, a tick and a key event always,
and two key events unless they put the same key in two states.  Schedules that differ by any
number of such swaps, each where its neighbours are independent, lead to the same machine, and
their steps answer the same. -/
theorem independent_calls_commute (m : Machine) :
    (¬ m.next.usesTimers → m.Interchange .step .tick) ∧
      (¬ m.next.asksKeypad → ∀ code down, m.Interchange .step (.press code down)) ∧
      (∀ code down, m.Interchange .tick (.press code down)) ∧
      (∀ code code' down down', down = down' ∨ ¬ m.config.keymap.Share code code' →
        m.Interchange (.press code down) (.press code' down')) ∧
      ∀ ops ops', Relation.EqvGen m.Swap ops ops' →
        m.after ops = m.after ops' ∧ m.stepAnswers ops = m.stepAnswers ops' := by
  refine ⟨interchange_step_tick, interchange_step_press, interchange_tick_press m, ?_, ?_⟩
  · intro code code' down down' apart
    exact interchange_press_press apart
  · intro ops ops' joined
    induction joined with
    | rel _ _ swap => exact swap.same
    | refl _ => exact ⟨rfl, rfl⟩
    | symm _ _ _ ih => exact ⟨ih.1.symm, ih.2.symm⟩
    | trans _ _ _ _ _ first second =>
        exact ⟨first.1.trans second.1, first.2.trans second.2⟩

/-- A machine that is about to look at a delay timer that runs. -/
def timerReader : Machine :=
  (boot {} 0 (some [0x60, 0x03, 0xF0, 0x15, 0xF1, 0x07])).machine.after [.step, .step]

/-- It sees which of the two calls came first. -/
example : (timerReader.after [.step, .tick]).val 1 = 3 ∧
    (timerReader.after [.tick, .step]).val 1 = 2 := by decide +kernel

end Machine

end Chip8
