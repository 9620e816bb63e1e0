/-
# Chip8.Proofs.Flags -- sums, differences and shifts with their flag

Five instructions leave a result in `Vx` and a flag in `VF`: the carry of a sum, whether a
difference needed no borrow, the bit that a shift pushed out.  Both come from what the registers
held before, so it does not matter whether `Vy` is the flag register or `Vx` itself.  Only where
`Vx` is the flag register do the two meet, and then the result stands.

* `Flagged m x law n`: from `m` to `n`, `Vx` and the flag have come to satisfy a law, and no other
  register has changed; where `Vx` is the flag register, only the result is left of it;
* `flagged_put`, `yields_flagged`: a flag that is set and a result put on top of it satisfy the
  law that they satisfy as numbers, however the registers coincide;
* `add_carry`, `sub_borrow`, `shiftRight_bit`, `shiftLeft_carry`: the laws themselves, on bytes;
* `flag_arithmetic`: all five instructions.
-/
import Chip8.Proofs.Frame

namespace Chip8

set_option autoImplicit false

/-! ## Laws on bytes -/

section

variable (a b : UInt8)

theorem toNat_toUInt8 (flag : Bool) : flag.toUInt8.toNat = flag.toNat := by
  cases flag <;> rfl

theorem add_carry :
    256 * (decide (256 ≤ a.toNat + b.toNat)).toNat + (a + b).toNat = a.toNat + b.toNat := by
  have boundA := a.toNat_lt
  have boundB := b.toNat_lt
  rw [UInt8.toNat_add]
  by_cases carries : 256 ≤ a.toNat + b.toNat
  · simp [carries]
    omega
  · simp [carries]
    omega

/-- The flag tells that there was no need to borrow, and is off where the two are equal. -/
theorem sub_borrow :
    (a - b).toNat = (a.toNat + 256 - b.toNat) % 256 ∧
      (decide (b < a)).toNat = if b.toNat < a.toNat then 1 else 0 := by
  have boundB := b.toNat_lt
  constructor
  · rw [UInt8.toNat_sub]
    omega
  · by_cases less : b.toNat < a.toNat
    · simp [UInt8.lt_iff_toNat_lt, less]
    · simp [UInt8.lt_iff_toNat_lt, less]

theorem shiftRight_bit :
    2 * (a / 2).toNat + (a % 2 == 1).toNat = a.toNat ∧ (a % 2 == 1).toNat ≤ 1 := by
  have half : (a / 2).toNat = a.toNat / 2 := UInt8.toNat_div a 2
  have odd : (a % 2 == 1) = decide (a.toNat % 2 = 1) := by
    rw [Bool.eq_iff_iff, beq_iff_eq, decide_eq_true_iff, ← UInt8.toNat_inj, UInt8.toNat_mod]
    rfl
  rw [half, odd]
  by_cases pushed : a.toNat % 2 = 1
  · simp [pushed]
    omega
  · simp [pushed]
    omega

theorem shiftLeft_carry : 256 * (decide (128 ≤ a)).toNat + (a * 2).toNat = 2 * a.toNat := by
  have bound := a.toNat_lt
  have double : (a * 2).toNat = a.toNat * 2 % 256 := UInt8.toNat_mul a 2
  have high : 128 ≤ a ↔ 128 ≤ a.toNat := UInt8.le_iff_toNat_le
  rw [double]
  by_cases pushed : 128 ≤ a.toNat
  · simp [high, pushed]
    omega
  · simp [high, pushed]
    omega

end

/-! ## Results and flags in registers -/

namespace Machine

variable {m : Machine} {x y : UInt8}

/-- From `m` to `n` the register `Vx` has got a result and `VF` a flag that together satisfy a law,
and nothing else has happened to the registers.  If `Vx` is `VF`, it has the result that the law
asks for, and the flag is lost. -/
structure Flagged (m : Machine) (x : UInt8) (law : (result flag : Nat) → Prop) (n : Machine) :
    Prop where
  apart : x ≠ 15 → law (n.val x).toNat (n.val 15).toNat
  lost : x = 15 → ∃ flag, law (n.val 15).toNat flag
  kept : ∀ j < 16, j ≠ x → j ≠ 15 → n.val j = m.val j

/-- **The flag first and the result on top of it** satisfy what they satisfy as numbers. -/
theorem flagged_put (inside : x < 16) {law : Nat → Nat → Prop} {result : UInt8} {flag : Bool}
    (holds : law result.toNat flag.toNat) (pc : UInt16) :
    m.Flagged x law (({ m with pc }.setFlag flag).put x result) where
  apart other := by
    rw [val_put inside _ inside, if_pos rfl, val_put inside _ (by decide), if_neg other,
      val_setFlag _ (by decide), if_pos rfl, toNat_toUInt8]
    exact holds
  lost same := by
    subst same
    rw [val_put inside _ inside, if_pos rfl]
    exact ⟨_, holds⟩
  kept j named result flag := by
    rw [val_put inside _ named, if_neg (Ne.symm result), val_setFlag _ named, if_neg flag]
    rfl

/-- An instruction that does no more than this, whatever the counter, obeys the law. -/
theorem yields_flagged (wf : m.WellFormed) {i : Instruction} (range : i.InRange) (inside : x < 16)
    (runs : ∀ n : Machine, n.refusal i = none) {law : Nat → Nat → Prop} {result : UInt8}
    {flag : Bool}
    (does : ∀ pc, { m with pc }.effect i = ({ m with pc }.setFlag flag).put x result)
    (holds : law result.toNat flag.toNat) : m.Yields i (m.Flagged x law) := by
  refine yields_of_effect wf range runs fun pc => ?_
  rw [does pc]
  exact flagged_put inside holds pc

/-! ## The five instructions -/

/-- **Results and flags.**  On every machine a host can come to, with `a` and `b` the values of
`Vx` and `Vy`, whichever registers these are: a sum and its carry are `a + b`, a difference is
taken modulo 256 and its flag is on exactly if what is subtracted is less, and a shift and the
bit it pushed out are `a` or twice `a`.  If `Vx` is the flag register itself, it holds the
result.  All other registers keep their values. -/
theorem flag_arithmetic (reachable : m.Reachable) (hx : x < 16) (hy : y < 16) :
    let a := (m.val x).toNat
    let b := (m.val y).toNat
    m.Yields (.add x y) (m.Flagged x fun result flag => 256 * flag + result = a + b) ∧
      m.Yields (.sub x y) (m.Flagged x fun result flag =>
        result = (a + 256 - b) % 256 ∧ flag = if b < a then 1 else 0) ∧
      m.Yields (.subFrom x y) (m.Flagged x fun result flag =>
        result = (b + 256 - a) % 256 ∧ flag = if a < b then 1 else 0) ∧
      m.Yields (.shiftRight x) (m.Flagged x fun result flag =>
        2 * result + flag = a ∧ flag ≤ 1) ∧
      m.Yields (.shiftLeft x) (m.Flagged x fun result flag => 256 * flag + result = 2 * a) := by
  have wf := reachable.wellFormed
  refine ⟨?_, ?_, ?_, ?_, ?_⟩
  · exact yields_flagged (i := .add x y) wf ⟨hx, hy⟩ hx (fun _ => rfl)
      (fun _ => by rw [effect]; rfl) (add_carry _ _)
  · exact yields_flagged (i := .sub x y) wf ⟨hx, hy⟩ hx (fun _ => rfl)
      (fun _ => by rw [effect]; rfl) (sub_borrow _ _)
  · exact yields_flagged (i := .subFrom x y) wf ⟨hx, hy⟩ hx (fun _ => rfl)
      (fun _ => by rw [effect]; rfl) (sub_borrow _ _)
  · exact yields_flagged (i := .shiftRight x) wf hx hx (fun _ => rfl)
      (fun _ => by rw [effect]; rfl) (shiftRight_bit _)
  · exact yields_flagged (i := .shiftLeft x) wf hx hx (fun _ => rfl)
      (fun _ => by rw [effect]; rfl) (shiftLeft_carry _)

/-- A machine about to add the flag register, which holds 100, to a register that holds 200. -/
def flagAddend : Machine :=
  (boot {} 0 (some [0x63, 0xC8, 0x6F, 0x64, 0x83, 0xF4])).machine.after [.frame 2]

/-- The sum is that of the values before, although the carry is written over one of them. -/
theorem flagAddend_carries :
    flagAddend.Reachable ∧ (3 : UInt8) < 16 ∧ (15 : UInt8) < 16 ∧
      flagAddend.step.result = .ok () ∧
      256 * (flagAddend.step.machine.val 15).toNat +
        (flagAddend.step.machine.val 3).toNat = 300 := by
  have reachable : flagAddend.Reachable :=
    ⟨{}, 0, some [0x63, 0xC8, 0x6F, 0x64, 0x83, 0xF4], [.frame 2], rfl⟩
  have three : (3 : UInt8) < 16 := by decide
  have fifteen : (15 : UInt8) < 16 := by decide
  have decoded : decode (flagAddend.memory.word flagAddend.pc.toNat) = .add 3 15 := by
    decide +kernel
  have values : (flagAddend.val 3).toNat + (flagAddend.val 15).toNat = 300 := by decide +kernel
  obtain ⟨sum, -⟩ := flag_arithmetic reachable three fifteen
  obtain ⟨ok, flagged⟩ := sum.stepped (Instruction.decode_eq_iff.1 decoded)
  exact ⟨reachable, three, fifteen, ok, (flagged.apart (by decide)).trans values⟩

end Machine

end Chip8
