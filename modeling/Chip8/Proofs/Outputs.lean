/-
# Chip8.Proofs.Outputs -- the screen and the sound are there to be seen and heard

A program cannot look at its screen, and it cannot ask how long its sound will last.  There is
one way back: a draw tells in the flag whether it turned a cell off.  So two machines that differ
in nothing but the screen and the sound timer go on alike until a draw finds a cell on in one of
them alone, and even then nothing else comes to differ but the flag.

* `SameButOutputs`: equal but for the screen and the sound timer;
* `step_outputs`: a step keeps it, if it is no draw that leaves two different flags;
* `step_outputs_and_flag`: any step keeps it but for the flag;
* `outputs_unseen`: so it is over whole lists of calls, which answer alike but for what they say
  about sound.
-/
import Chip8.Proofs.Frame
import Chip8.Proofs.View

namespace Chip8

set_option autoImplicit false

/-- Opcode Dxyn. -/
def Instruction.isDraw : Instruction → Bool
  | draw .. => true
  | _ => false

namespace Machine

variable {m n : Machine}

/-- Equal but for the screen and the sound timer. -/
def SameButOutputs (m n : Machine) : Prop := ∃ screen sound, n = { m with screen, sound }

/-- Equal but for the screen, the sound timer and the flag. -/
def SameButOutputsAndFlag (m n : Machine) : Prop :=
  ∃ v screen sound, n = { m with v, screen, sound } ∧
    ∀ j, j ≠ flagReg → Table.get v j = Table.get m.v j

theorem SameButOutputs.andFlag (same : m.SameButOutputs n) : m.SameButOutputsAndFlag n := by
  obtain ⟨screen, sound, rfl⟩ := same
  exact ⟨m.v, screen, sound, rfl, fun _ _ => rfl⟩

/-- If the next step is a draw, it leaves the same flag on both machines. -/
def SameFlag (m n : Machine) : Prop :=
  m.next.isDraw → Table.get m.step.machine.v flagReg = Table.get n.step.machine.v flagReg

instance (m n : Machine) : Decidable (m.SameFlag n) :=
  inferInstanceAs (Decidable (m.next.isDraw = true → _ = _))

/-! ## One step -/

/-- A draw is never refused. -/
theorem step_of_draw {x y rows : UInt8} (spelled : m.next = .draw x y rows) :
    m.step = ⟨m.passed.effect (.draw x y rows), m.stepLog, .ok ()⟩ := by
  have runs : m.passed.fault? (.draw x y rows) = none := if_neg fun deep => nomatch deep.1
  rw [step_total, spelled, runs]

/-- What a draw leaves in the flag. -/
theorem flag_of_draw {x y rows : UInt8} (spelled : m.next = .draw x y rows) :
    Table.get m.step.machine.v flagReg = (m.screen.flip (m.covered x y rows)).2.toUInt8 := by
  rw [step_of_draw spelled, effect, get_setFlag, if_pos rfl]
  rfl

theorem toUInt8_inj : ∀ {a b : Bool}, a.toUInt8 = b.toUInt8 → a = b := by decide

/-- Where a draw would leave the same flag, the next instruction finds the same whatever is on
the screen. -/
theorem sameView_outputs {screen : Screen} {sound : UInt8}
    (flags : m.SameFlag { m with screen, sound }) :
    m.next.SameView m { m with screen, sound } where
  core := ⟨rfl, rfl, rfl, rfl, rfl⟩
  hit x y rows spelled := by
    have drawn : m.next.isDraw := by
      rw [spelled]
      rfl
    have same := flags drawn
    rw [flag_of_draw spelled, flag_of_draw (m := { m with screen, sound }) spelled] at same
    exact toUInt8_inj same

theorem step_outputs (same : m.SameButOutputs n) (flags : m.SameFlag n) :
    m.step.Rel SameButOutputs n.step := by
  obtain ⟨screen, sound, rfl⟩ := same
  refine step_of_sameView (sameView_outputs flags) ⟨screen, sound, rfl⟩ ?_
  rw [effect_parts m.passed]
  exact ⟨_, _, rfl⟩

theorem step_outputs_and_flag (same : m.SameButOutputs n) :
    m.step.Rel SameButOutputsAndFlag n.step := by
  by_cases drawn : m.next.isDraw
  · obtain ⟨screen, sound, rfl⟩ := same
    cases spelled : m.next with
    | draw x y rows =>
        rw [step_of_draw spelled, step_of_draw (m := { m with screen, sound }) spelled]
        refine ⟨rfl, rfl, _, _, _, rfl, ?_⟩
        intro j other
        have kept := effect_register (m := m.passed) (i := .draw x y rows) other
        have kept' := effect_register (m := { m with screen, sound }.passed)
          (i := .draw x y rows) other
        exact kept'.trans kept.symm
    | _ =>
        rw [spelled] at drawn
        cases drawn
  · obtain ⟨result, log, machine⟩ := step_outputs same fun draws => absurd draws drawn
    exact ⟨result, log, machine.andFlag⟩

/-! ## Runs -/

theorem lockstep_outputs : LockstepMuted SameFlag (· = ·) SameButOutputs where
  step flags same := step_outputs same flags
  countDown := by
    rintro m _ ⟨screen, sound, rfl⟩
    exact ⟨screen, _, rfl⟩
  press := by
    rintro m _ code _ down rfl ⟨screen, sound, rfl⟩
    exact ⟨screen, sound, rfl⟩
  reset := by
    rintro m _ ⟨screen, sound, rfl⟩
    exact ⟨_, _, rfl⟩
  load := by
    rintro m _ rom ⟨screen, sound, rfl⟩
    exact load_rel rom ⟨screen, sound, rfl⟩ ⟨screen, sound, rfl⟩

/-- **The screen and the sound are outputs.**  Take two machines that differ in nothing but the
screen and the sound timer.  They differ in nothing else after every call of a common list, and
every call answers the same but for what it says about sound, as long as every draw, also inside
a frame, leaves the same flag on both; and so it is without a condition if none is made.  A step
that is no draw keeps them so in any case, and a draw keeps them so but for the flag. -/
theorem outputs_unseen {m n : Machine} (same : m.SameButOutputs n) :
    (∀ ops, CalmOn SameFlag (m.history ops) (n.history ops) →
      List.Forall₂ (Reply.RelMuted SameButOutputs) (m.performAll ops) (n.performAll ops)) ∧
      (∀ ops, QuietOn (fun k => ¬ k.next.isDraw) (m.history ops) →
        List.Forall₂ (Reply.RelMuted SameButOutputs) (m.performAll ops) (n.performAll ops)) ∧
      (¬ m.next.isDraw → m.step.Rel SameButOutputs n.step) ∧
      m.step.Rel SameButOutputsAndFlag n.step := by
  have runs (ops : List Operation) (calm : CalmOn SameFlag (m.history ops) (n.history ops)) :
      List.Forall₂ (Reply.RelMuted SameButOutputs) (m.performAll ops) (n.performAll ops) :=
    lockstep_outputs.performAll (Operation.matches_self ops) same calm
  refine ⟨runs, ?_, ?_, step_outputs_and_flag same⟩
  · intro ops quiet
    apply runs ops
    intro p member step drawn
    exact absurd drawn (quiet p.1 (List.of_mem_zip member).1 step)
  · intro other
    exact step_outputs same fun drawn => absurd drawn other

/-! ## Poles -/

/-- A machine that draws the digit zero in a corner, twice. -/
def twiceZero : Machine := (boot {} 0 (some [0xD0, 0x05, 0xD0, 0x05])).machine

/-- The same in the middle of a sound, with a cell on that the digit does not cover. -/
def twiceZeroLoud : Machine :=
  { twiceZero with screen := twiceZero.screen.toggle 40 20, sound := 9 }

/-- The first draw turns no cell off in either, and the second the same ones in both. -/
theorem twiceZero_unseen :
    twiceZero.SameButOutputs twiceZeroLoud ∧
      CalmOn SameFlag (twiceZero.history [.tick, .step, .frame 1])
        (twiceZeroLoud.history [.tick, .step, .frame 1]) ∧
      List.Forall₂ (Reply.RelMuted SameButOutputs)
        (twiceZero.performAll [.tick, .step, .frame 1])
        (twiceZeroLoud.performAll [.tick, .step, .frame 1]) := by
  have same : twiceZero.SameButOutputs twiceZeroLoud := ⟨_, _, rfl⟩
  have calm : CalmOn SameFlag (twiceZero.history [.tick, .step, .frame 1])
      (twiceZeroLoud.history [.tick, .step, .frame 1]) := by
    decide +kernel
  exact ⟨same, calm, (outputs_unseen same).1 _ calm⟩

end Machine

end Chip8
