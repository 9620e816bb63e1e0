/-
# Chip8.Proofs.Rolls -- the random stream moves once for each number drawn

A seed fixes a sequence of words.  A machine keeps its place in that sequence for as long as
it exists: a reset, which makes everything else anew, keeps the place, and only an executed
`random` moves it, by one, also when its mask lets nothing through.

* `Moment.isRoll`: the moments that draw a number, and `rolls`, how many there were;
* `atom_random`: one call of the host moves the stream if it is a roll, and else not;
* `step_of_random`: what a roll does with the word at the current place;
* `random_stream`: so the place is the number of rolls since the machine was switched on,
  and the `k`-th roll takes the `k`-th word, over any run.
-/
import Chip8.Proofs.Frame

namespace Chip8

set_option autoImplicit false

/-- The moment was an executed `random`. -/
def Moment.isRoll (k : Moment) : Bool :=
  match k.executed? with
  | some (.random ..) => true
  | _ => false

/-- How many numbers were drawn. -/
def rolls (past : List Moment) : Nat := past.countP Moment.isRoll

theorem rolls_concat (past : List Moment) (k : Moment) :
    rolls (past ++ [k]) = rolls past + if k.isRoll then 1 else 0 := by
  rw [rolls, List.countP_append, List.countP_singleton, rolls]

namespace Machine

variable {m : Machine}

/-! ## One moment -/

/-- A roll is never refused: it puts the low byte of the word at the place, masked, in its
register, and moves the stream. -/
theorem step_of_random (wf : m.WellFormed) {x mask : UInt8} (spelled : m.next = .random x mask) :
    Moment.executed? ⟨m, .step⟩ = some (.random x mask) ∧
      m.step.machine =
        { m.passed with random := m.random.next.2 }.put x (m.random.next.1.toUInt8 &&& mask) := by
  have runs : m.passed.refusal m.next = none := by
    rw [spelled]
    rfl
  have ran := step_of_runs wf.stack.depth_le runs
  constructor
  · simp only [Moment.executed?, ran, spelled]
  · rw [ran, spelled]
    rfl

theorem step_random (wf : m.WellFormed) :
    m.step.machine.random =
      if Moment.isRoll ⟨m, .step⟩ then m.random.next.2 else m.random := by
  rcases step_cases wf with ⟨executed, ran⟩ | ⟨refused, nothing⟩
  · rw [Moment.isRoll, executed, ran, effect_random]
    cases m.next with
    | random x mask => rfl
    | _ => rfl
  · rw [Moment.isRoll, refused, nothing]
    rfl

/-- **One call moves the stream if it is a roll**, and only then. -/
theorem atom_random (wf : m.WellFormed) {op : Operation} (atom : op.IsAtom) :
    (m.perform op).machine.random =
      if Moment.isRoll ⟨m, op⟩ then m.random.next.2 else m.random := by
  cases op with
  | step => exact step_random wf
  | frame n => exact atom.elim
  | tick | listen | press _ _ | reset => rfl
  | load rom => exact m.load_random rom
  | loadFile path content =>
      cases content with
      | none => rfl
      | some rom => exact m.load_random rom

theorem boot_random (config : Config) (drawn : UInt64) (rom : Option (List UInt8)) :
    (boot config drawn rom).machine.random = .start (config.seed.getD drawn) := by
  cases rom with
  | none => rfl
  | some rom => exact (start config drawn).load_random rom

end Machine

/-! ## Runs -/

theorem Trail.random_eq {m k : Machine} {past : List Moment} (trail : Trail m past k)
    (wf : m.WellFormed) :
    k.random = { m.random with position := m.random.position + rolls past } := by
  induction trail with
  | nil => rfl
  | @snoc past k before op atom ih =>
      rw [Machine.atom_random (before.wellFormed wf) atom, ih, rolls_concat]
      split <;> rfl

namespace Machine

/-- **The stream moves once for each number drawn.**  After any calls of a host the place in
the stream of the seed is the number of rolls since the machine was switched on.  A step at
a `random` is a roll: after `n` others it puts the low byte of the `n`-th word, masked, in
its register and keeps the other registers.  What is not a roll keeps the stream. -/
theorem random_stream (config : Config) (drawn : UInt64) (rom : Option (List UInt8))
    (ops : List Operation) :
    let start := (boot config drawn rom).machine
    let seed := config.seed.getD drawn
    (start.after ops).random = ⟨seed, rolls (start.history ops)⟩ ∧
      ∀ earlier k later, start.history ops = earlier ++ k :: later →
        (∀ x mask, k.call = .step → k.machine.next = .random x mask →
          k.executed? = some (.random x mask) ∧
            Table.get k.after.v (slotOf x.toNat) =
              (Random.Stream.word seed (rolls earlier)).toUInt8 &&& mask ∧
            (∀ j, j ≠ slotOf x.toNat → Table.get k.after.v j = Table.get k.machine.v j) ∧
            k.after.random = ⟨seed, rolls earlier + 1⟩) ∧
          (¬ k.isRoll → k.after.random = k.machine.random) := by
  intro start seed
  have wfs : start.WellFormed := boot_wellFormed config drawn rom
  have place {past : List Moment} {k : Machine} (trail : Trail start past k) :
      k.random = ⟨seed, rolls past⟩ := by
    rw [trail.random_eq wfs, boot_random]
    show Random.Stream.mk seed (0 + rolls past) = _
    rw [Nat.zero_add]
  refine ⟨place (start.trail_history ops), fun earlier k later whole => ?_⟩
  have trail := start.trail_history ops
  rw [whole] at trail
  obtain ⟨upTo, atom⟩ := trail.upTo
  have wf := upTo.wellFormed wfs
  obtain ⟨m, op⟩ := k
  refine ⟨fun x mask step spelled => ?_, fun other => ?_⟩
  · obtain rfl : op = .step := step
    obtain ⟨executed, ran⟩ := step_of_random wf spelled
    have after : Moment.after ⟨m, .step⟩ = _ := ran
    refine ⟨executed, ?_, fun j other => ?_, ?_⟩
    · rw [after, get_put, if_pos rfl, Random.Stream.next, place upTo]
    · rw [after, get_put, if_neg (Ne.symm other)]
      rfl
    · rw [after]
      show m.random.next.2 = _
      rw [place upTo]
      rfl
  · exact (atom_random wf atom).trans (if_neg other)

/-- A machine about to draw a number of which its mask lets nothing through. -/
def blindThrower : Machine := (boot { seed := some 7 } 0 (some [0xC0, 0x00])).machine

/-- The number is drawn all the same, and a reset does not undo that. -/
example : (blindThrower.after [.step, .reset]).random = ⟨7, 1⟩ := by decide +kernel

end Machine

end Chip8
