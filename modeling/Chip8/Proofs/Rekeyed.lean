/-
# Chip8.Proofs.Rekeyed -- the codes of keys mean nothing

A keymap is looked at in one place, where a key event comes in, and there only for the key
that its table gives the code.  So a machine can be given another keymap, and its host other
codes that give the same keys, and nobody can tell; and an event whose code stands nowhere in
the table might as well not have happened.

* `rekeyed`: the machine with another keymap; `sameView_rekeyed`, `step_rekeyed`: an instruction
  finds the same on both, and one step does the same;
* `lockstep_rekeyed`: so do all calls, key events with codes of the same key;
* `after_heard`, `performAll_heard`: a run with the events of unknown codes taken out;
* `codes_opaque`: both for any machines and any calls.
-/
import Chip8.Proofs.View

namespace Chip8

set_option autoImplicit false

/-! ## Keymaps and keypads -/

theorem Keymap.key?_eq_none_iff (k : Keymap) (code : UInt32) :
    k.key? code = none ↔ code ∉ k.codes := by
  simp only [Keymap.key?, Option.map_eq_none_iff, List.findIdx?_eq_none_iff, Vector.mem_toList_iff,
    beq_eq_false_iff_ne]
  exact ⟨fun absent member => absent code member rfl,
    fun absent other member same => absent (same ▸ member)⟩

/-- A key event is its key's, whatever the code. -/
theorem Keypad.press_congr (keys : Keypad) {k k' : Keymap} {code code' : UInt32}
    (same : k.key? code = k'.key? code') (down : Bool) :
    keys.press k code down = keys.press k' code' down := by
  simp only [Keypad.press, same]

/-- The call is not a key event whose code stands nowhere in the table. -/
def Operation.heard (keymap : Keymap) : Operation → Bool
  | .press code _ => code ∈ keymap.codes
  | _ => true

namespace Machine

/-! ## Another keymap -/

/-- The machine with another keymap. -/
def rekeyed (m : Machine) (keymap : Keymap) : Machine :=
  { m with config := { m.config with keymap } }

/-- Equal but for the keymap. -/
def SameButKeymap (m n : Machine) : Prop := n = m.rekeyed n.config.keymap

variable {m n : Machine} {keymap keymap' : Keymap}

/-- A machine with the first keymap, and the same machine with the second. -/
def Rekeys (keymap keymap' : Keymap) (m n : Machine) : Prop :=
  m.config.keymap = keymap ∧ n = m.rekeyed keymap'

/-- No instruction looks at the keymap. -/
theorem sameView_rekeyed (m : Machine) (keymap : Keymap) (i : Instruction) :
    i.SameView m (m.rekeyed keymap) :=
  { core := ⟨rfl, rfl, rfl, rfl, rfl⟩ }

theorem step_rekeyed (bound : m.config.keymap = keymap) :
    m.step.Rel (Rekeys keymap keymap') (m.rekeyed keymap').step := by
  refine step_of_sameView (sameView_rekeyed m keymap' m.next) ⟨bound, rfl⟩ ?_
  rw [effect_parts m.passed]
  exact ⟨bound, rfl⟩

/-- The codes of one key, or of none, in two keymaps. -/
def SameKey (keymap keymap' : Keymap) (code code' : UInt32) : Prop :=
  keymap.key? code = keymap'.key? code'

theorem lockstep_rekeyed (keymap keymap' : Keymap) :
    LockstepOn (fun _ _ => True) (SameKey keymap keymap') (Rekeys keymap keymap') where
  step := by
    rintro m _ - ⟨bound, rfl⟩
    exact step_rekeyed bound
  countDown := by
    rintro m _ ⟨bound, rfl⟩
    exact ⟨bound, rfl⟩
  isSounding := by
    rintro m _ ⟨-, rfl⟩
    rfl
  press := by
    rintro m _ code code' down same ⟨rfl, rfl⟩
    refine ⟨rfl, ?_⟩
    have moved := m.keypad.press_congr same down
    simp only [press, rekeyed, moved]
  reset := by
    rintro m _ ⟨bound, rfl⟩
    exact ⟨bound, rfl⟩
  load := by
    rintro m _ rom ⟨bound, rfl⟩
    exact load_rel rom ⟨bound, rfl⟩ ⟨bound, rfl⟩

/-! ## Events of no key -/

/-- No call changes the keymap: a machine is in lockstep with itself. -/
theorem perform_keymap (m : Machine) (op : Operation) :
    (m.perform op).machine.config.keymap = m.config.keymap := by
  have matched : op.Matches (SameKey m.config.keymap m.config.keymap) op := by
    cases op with
    | press code down => exact .press down rfl
    | _ => exact .same _ nofun
  have self : Rekeys m.config.keymap m.config.keymap m m := ⟨rfl, rfl⟩
  exact ((lockstep_rekeyed _ _).perform matched self fun _ _ _ => trivial).1.machine.1

/-- A call that is not heard does nothing. -/
theorem perform_of_not_heard {op : Operation} (deaf : op.heard m.config.keymap = false) :
    m.perform op = ⟨m, [], .ok .done⟩ := by
  cases op with
  | press code down =>
      have absent : code ∉ m.config.keymap.codes := of_decide_eq_false deaf
      have unbound := (Keymap.key?_eq_none_iff _ _).2 absent
      simp only [perform, press, Keypad.press, unbound]
  | _ => cases deaf

theorem after_heard (m : Machine) (ops : List Operation) :
    m.after (ops.filter (·.heard m.config.keymap)) = m.after ops := by
  induction ops generalizing m with
  | nil => rfl
  | cons op ops ih =>
      have further := ih (m.perform op).machine
      rw [perform_keymap] at further
      cases heard : op.heard m.config.keymap with
      | true =>
          rw [List.filter_cons_of_pos heard]
          exact further
      | false =>
          rw [List.filter_cons_of_neg (by simp [heard])]
          rw [perform_of_not_heard heard] at further
          rw [further]
          show m.after ops = (m.perform op).machine.after ops
          rw [perform_of_not_heard heard]

/-- The replies to the calls that are heard do not depend on the others. -/
theorem performAll_heard (m : Machine) (ops : List Operation) :
    m.performAll (ops.filter (·.heard m.config.keymap)) =
      ((ops.zip (m.performAll ops)).filter (·.1.heard m.config.keymap)).map (·.2) := by
  induction ops generalizing m with
  | nil => rfl
  | cons op ops ih =>
      have further := ih (m.perform op).machine
      rw [perform_keymap] at further
      rw [performAll, List.zip_cons_cons]
      cases heard : op.heard m.config.keymap with
      | true =>
          rw [List.filter_cons_of_pos heard, List.filter_cons_of_pos (a := (op, _)) heard,
            List.map_cons, performAll, further]
      | false =>
          rw [List.filter_cons_of_neg (by simp [heard]), List.filter_cons_of_neg (by simp [heard]),
            ← further, perform_of_not_heard heard]

/-! ## Any machines and any calls -/

/-- **The codes of keys mean nothing.**  Two machines that differ in nothing but their keymaps
answer and report alike, and differ in nothing else afterwards, under any calls that are the
same but for key events, whose codes only have to give the same key in the two tables, or none
in both.  A key event whose code stands nowhere in the table does nothing, and taken out of a
run it changes neither the replies to the other calls nor where the run ends. -/
theorem codes_opaque {m n : Machine} (same : m.SameButKeymap n) :
    (∀ ops ops', List.Forall₂
        (Operation.Matches (SameKey m.config.keymap n.config.keymap)) ops ops' →
      List.Forall₂ (Reply.Rel (Rekeys m.config.keymap n.config.keymap)) (m.performAll ops)
        (n.performAll ops')) ∧
      (∀ code down, code ∉ m.config.keymap.codes →
        m.perform (.press code down) = ⟨m, [], .ok .done⟩) ∧
      ∀ ops, m.after (ops.filter (·.heard m.config.keymap)) = m.after ops ∧
        m.performAll (ops.filter (·.heard m.config.keymap)) =
          ((ops.zip (m.performAll ops)).filter (·.1.heard m.config.keymap)).map (·.2) := by
  refine ⟨fun ops ops' matched => ?_, fun code down absent => ?_, fun ops => ?_⟩
  · have related : Rekeys m.config.keymap n.config.keymap m n := ⟨rfl, same⟩
    exact (lockstep_rekeyed _ _).performAll matched related fun _ _ _ => trivial
  · have deaf : Operation.heard m.config.keymap (.press code down) = false := decide_eq_false absent
    exact perform_of_not_heard deaf
  · exact ⟨m.after_heard ops, m.performAll_heard ops⟩

/-! ## Poles -/

/-- A machine that waits for a key and then asks whether it is still held. -/
def keyWaiter : Machine := (boot { keyWait := .block } 0 (some [0xF3, 0x0A, 0xE3, 0x9E])).machine

/-- Sixteen times one code, which so gives the first key. -/
def oneCode : Keymap := ⟨Vector.replicate 16 7⟩

/-- The `x` of the standard layout and the one code of the other give the same key; where one
side presses a code that its table does not have, so does the other. -/
theorem keyWaiter_opaque :
    keyWaiter.SameButKeymap (keyWaiter.rekeyed oneCode) ∧
      List.Forall₂ (Reply.Rel (Rekeys .standard oneCode))
        (keyWaiter.performAll [.step, .press 120 true, .step, .press 1000 true, .frame 2])
        ((keyWaiter.rekeyed oneCode).performAll
          [.step, .press 7 true, .step, .press 120 true, .frame 2]) := by
  have same : keyWaiter.SameButKeymap (keyWaiter.rekeyed oneCode) := rfl
  obtain ⟨alike, -, -⟩ := codes_opaque same
  refine ⟨same, alike _ _ ?_⟩
  refine .cons (.same _ nofun) (.cons (.press true ?_) (.cons (.same _ nofun)
    (.cons (.press true ?_) (.cons (.same _ nofun) .nil))))
  · show Keymap.standard.key? 120 = oneCode.key? 7
    decide +kernel
  · show Keymap.standard.key? 1000 = oneCode.key? 120
    decide +kernel

end Machine

end Chip8
