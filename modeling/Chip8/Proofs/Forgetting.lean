/-
# Chip8.Proofs.Forgetting -- a reset leaves nothing of a run but the place in the stream

A reset machine is a new one that goes on in the random stream of the old.  With a program
loaded it is the machine that would have been switched on with that program, at another
place in the same stream; and what the place is, nobody can tell until a number is drawn.

* `Elsewhere`: equal but for the place in the random stream;
* `step_elsewhere`: a step that is no roll keeps it;
* `lockstep_elsewhere`: so two such machines answer and report alike while none is made;
* `reset_forgets`: all of it for a reset after any run.
-/
import Chip8.Proofs.Rolls
import Chip8.Proofs.View

namespace Chip8

set_option autoImplicit false

namespace Machine

/-- Equal but for the place in the random stream. -/
def Elsewhere (m n : Machine) : Prop :=
  ∃ place, n = { m with random := { m.random with position := place } }

variable {m : Machine} {random : Random.Stream}

/-! ## What is not a roll does not see the stream -/

theorem randomAfter_of_ne {i : Instruction} (other : ∀ x mask, i ≠ .random x mask) (m : Machine) :
    m.randomAfter i = m.random := by
  cases i with
  | random x mask => exact absurd rfl (other x mask)
  | _ => rfl

/-- The next step draws no number. -/
def Still (m : Machine) : Prop := m.stack.depth ≤ 16 ∧ ∀ x mask, m.next ≠ .random x mask

theorem step_elsewhere (still : m.Still) (place : Nat) :
    m.step.Rel Elsewhere
      { m with random := { m.random with position := place } }.step := by
  obtain ⟨-, other⟩ := still
  let n : Machine := { m with random := { m.random with position := place } }
  have view : m.next.SameView m n :=
    { core := ⟨rfl, rfl, rfl, rfl, rfl⟩
      random := fun x mask spelled => absurd spelled (other x mask) }
  refine step_of_sameView view ⟨place, rfl⟩ ?_
  rw [effect_parts m.passed, randomAfter_of_ne other, randomAfter_of_ne other]
  exact ⟨place, rfl⟩

theorem lockstep_elsewhere : LockstepWhile Still Elsewhere where
  step := by
    rintro m _ still ⟨place, rfl⟩
    exact step_elsewhere still place
  countDown := by
    rintro m _ ⟨place, rfl⟩
    exact ⟨place, rfl⟩
  isSounding := by
    rintro m _ ⟨place, rfl⟩
    rfl
  press := by
    rintro m _ code _ down rfl ⟨place, rfl⟩
    exact ⟨place, rfl⟩
  reset := by
    rintro m _ ⟨place, rfl⟩
    exact ⟨place, rfl⟩
  load := by
    rintro m _ rom ⟨place, rfl⟩
    exact load_rel rom ⟨place, rfl⟩ ⟨place, rfl⟩

/-- Where a history holds no roll, none of its steps is made where one is next. -/
theorem still_of_no_rolls (wf : m.WellFormed) {ops : List Operation}
    (none : rolls (m.history ops) = 0) : QuietOn Still (m.history ops) := by
  intro k member step
  have wfk := (m.trail_history ops).wellFormed_of_mem wf member
  refine ⟨wfk.stack.depth_le, fun x mask spelled => ?_⟩
  obtain ⟨k, op⟩ := k
  obtain rfl : op = .step := step
  have executed := (step_of_random wfk spelled).1
  refine List.countP_eq_zero.1 none _ member ?_
  rw [Moment.isRoll, executed]

/-! ## A reset after any run -/

/-- A machine that nothing has happened to but a load. -/
def freshWith (random : Random.Stream) (config : Config) (program : List UInt8) : Machine :=
  { fresh random config with
    memory := Memory.initial.writeBlock Memory.programStart program }

theorem load_fresh {program : List UInt8} (fits : program.length ≤ 3584)
    (random : Random.Stream) (config : Config) :
    (fresh random config).load program =
      ⟨freshWith random config program, [.copied program.length, .loaded program.length],
        .ok ()⟩ := by
  rw [load_eq, maxRomSize, if_pos fits]
  rfl

/-- **A reset forgets.**  After any calls of a host, a reset and a load of a program that
fits leave the machine that would have been switched on with that program, but for the
place in the random stream.  The two answer and report alike as long as no number is drawn,
and if none was drawn before the reset either, they are the same machine. -/
theorem reset_forgets {config : Config} {seed : UInt64} (seeded : config.seed = some seed)
    {program : List UInt8} (fits : program.length ≤ 3584) (drawn drawn' : UInt64)
    (rom : Option (List UInt8)) (ops : List Operation) :
    let start := (boot config drawn rom).machine
    let again := (start.after ops).after [.reset, .load program]
    let anew := (boot config drawn' (some program)).machine
    ((start.after ops).reset.load program).result = .ok () ∧
      (boot config drawn' (some program)).result = .ok () ∧
      again.Elsewhere anew ∧
      (∀ later, rolls (again.history later) = 0 →
        List.Forall₂ (Reply.Rel Elsewhere) (again.performAll later) (anew.performAll later)) ∧
      (rolls (start.history ops) = 0 → again = anew) := by
  intro start again anew
  have trail : Trail start (start.history ops) (start.after ops) := start.trail_history ops
  have wfs : start.WellFormed := boot_wellFormed config drawn rom
  have kept : (start.after ops).config = config :=
    (trail.config_eq wfs).trans (boot_config config drawn rom)
  have place : (start.after ops).random = ⟨seed, rolls (start.history ops)⟩ := by
    rw [trail.random_eq wfs, boot_random, seeded]
    show Random.Stream.mk seed (0 + _) = _
    rw [Nat.zero_add]
  have againIs : again = freshWith ⟨seed, rolls (start.history ops)⟩ config program := by
    show ((fresh (start.after ops).random (start.after ops).config).load program).machine = _
    rw [place, kept, load_fresh fits]
  have anewIs : anew = freshWith (.start seed) config program := by
    show ((fresh (.start (config.seed.getD drawn')) config).load program).machine = _
    rw [seeded, load_fresh fits]
    rfl
  have elsewhere : again.Elsewhere anew := by
    rw [againIs, anewIs]
    exact ⟨0, rfl⟩
  have wf : again.WellFormed := by
    have reached := (start.after ops).trail_history [.reset, .load program]
    exact (trail.trans reached).wellFormed wfs
  refine ⟨?_, ?_, elsewhere, ?_, ?_⟩
  · rw [reset, load_fresh fits]
  · show ((Machine.start config drawn').load program).result = _
    rw [Machine.start, load_fresh fits]
  · intro later none
    exact lockstep_elsewhere.performAll later (still_of_no_rolls wf none) elsewhere
  · intro none
    rw [againIs, anewIs, none]
    rfl

/-! ## Poles -/

/-- A machine that is about to draw a number. -/
def diceThrower : Machine := (boot { seed := some 7 } 0 (some [0xC0, 0xFF])).machine

/-- Once it has, a reset and a program make it a machine that was switched on with that
program, but further in the stream. -/
theorem diceThrower_forgets :
    let again := (diceThrower.after [.step]).after [.reset, .load [0x60, 0x2A]]
    let anew := (boot { seed := some 7 } 1 (some [0x60, 0x2A])).machine
    rolls (diceThrower.history [.step]) = 1 ∧ again.Elsewhere anew ∧
      List.Forall₂ (Reply.Rel Elsewhere) (again.performAll [.frame 1, .step])
        (anew.performAll [.frame 1, .step]) := by
  obtain ⟨-, -, elsewhere, alike, -⟩ := @reset_forgets { seed := some 7 } 7 rfl [0x60, 0x2A]
    (by decide) 0 1 (some [0xC0, 0xFF]) [.step]
  refine ⟨?_, elsewhere, alike [.frame 1, .step] ?_⟩
  · decide +kernel
  · decide +kernel

end Machine

end Chip8
