/-
# Chip8.Proofs.Overdrawing -- one sprite drawn over another

Which cells a draw turns over is a matter of the index, memory and the two registers of its corner.
It writes none of these, unless the corner is read from the flag register.  Where no draw of a list
does that, each finds its sprite where the first machine has it, whatever was drawn before.  A cell
then ends as it began, turned over once for each draw that covers it, and the order they come in
does not matter.

* `YieldsAll is P`: instructions one after another leave a machine of which `P` holds;
* `Stroke`: a draw that does not read its corner from the flag register;
* `layers`: how many of a list of strokes cover a cell;
* `Overdrawn`: what a list of strokes leaves; `Drawn.overdrawn` is its step and
  `yieldsAll_overdrawn` the whole list;
* `overdrawing`: order, cancelling, and the flag of a stroke drawn twice.
-/
import Chip8.Proofs.Drawing
import Mathlib.Algebra.BigOperators.Group.List.Lemmas
import Mathlib.Algebra.BigOperators.Ring.List
import Mathlib.Algebra.Ring.Parity

namespace Chip8

set_option autoImplicit false

/-! ## Instructions one after another -/

namespace Machine

/-- The instructions succeed one after another, with nothing in between, and leave a machine of
which `P` holds, whether each is executed by itself or as the next step. -/
def YieldsAll (m : Machine) : List Instruction → (Machine → Prop) → Prop
  | [], P => P m
  | i :: is, P => m.Yields i fun n => n.YieldsAll is P

section

variable {m : Machine} {i : Instruction} {is : List Instruction} {P Q : Machine → Prop}

theorem Yields.mono (yields : m.Yields i P) (weaker : ∀ n, P n → Q n) : m.Yields i Q where
  executed := by
    obtain ⟨n, ran, holds⟩ := yields.executed
    exact ⟨n, ran, weaker n holds⟩
  stepped spelled := (yields.stepped spelled).imp_right (weaker _)

theorem YieldsAll.mono (yields : m.YieldsAll is P) (weaker : ∀ n, P n → Q n) :
    m.YieldsAll is Q := by
  induction is generalizing m with
  | nil => exact weaker m yields
  | cons i is ih => exact Yields.mono yields fun n => ih

theorem YieldsAll.executed (yields : m.YieldsAll is P) :
    ∃ n, (is.forM carryOut).run m = .ok () n ∧ P n := by
  induction is generalizing m with
  | nil => exact ⟨m, rfl, yields⟩
  | cons i is ih =>
      obtain ⟨k, ran, further⟩ := Yields.executed yields
      obtain ⟨n, rest, holds⟩ := ih further
      have first : (carryOut i).run m = .ok () k := ran
      refine ⟨n, ?_, holds⟩
      simp only [List.forM_eq_forM, List.forM_cons, EStateM.run_bind, first] at rest ⊢
      exact rest

/-- Steps that execute just these instructions leave such a machine. -/
theorem YieldsAll.stepped (yields : m.YieldsAll is P)
    (ran : (m.history (List.replicate is.length .step)).map Moment.executed? = is.map some) :
    P (m.after (List.replicate is.length .step)) := by
  induction is generalizing m with
  | nil => exact yields
  | cons i is ih =>
      obtain ⟨first, later⟩ := List.cons.inj ran
      obtain ⟨-, here, -⟩ := Moment.of_executed? first
      have spelled : i.SpelledBy (m.memory.word m.pc.toNat) := here ▸ m.spelledBy_next
      exact ih (Yields.stepped yields spelled).2 later

end

end Machine

/-! ## Cells turned over -/

namespace Screen

/-- On for off, and off for on. -/
def turn (cell : UInt8) : UInt8 := 1 - cell

theorem turn_involutive : Function.Involutive turn := by
  intro cell
  grind [turn]

theorem turn_eq_one_iff {cell : UInt8} : turn cell = 1 ↔ cell = 0 := by
  grind [turn]

/-- The screen is its cells, by column and row. -/
theorem ext_pixel {s t : Screen}
    (same : ∀ column < 64, ∀ row < 32, s.pixel column row = t.pixel column row) : s = t := by
  obtain ⟨cells⟩ := s
  obtain ⟨others⟩ := t
  congr 1
  refine Table.ext_get fun i => ?_
  have place : cell (i.val % 64) (i.val / 64) = i := by
    apply Fin.ext
    simp only [cell, number, width, height]
    omega
  rw [← place]
  exact same _ (Nat.mod_lt _ (by decide)) _ (by omega)

end Screen

/-! ## Strokes -/

/-- A draw that does not read its corner from the flag register. -/
structure Stroke where
  x : UInt8
  y : UInt8
  rows : UInt8
  x_lt : x < 15
  y_lt : y < 15
  rows_lt : rows < 16
  deriving DecidableEq, Repr

def Stroke.instruction (s : Stroke) : Instruction := .draw s.x s.y s.rows

theorem Stroke.inRange (s : Stroke) : s.instruction.InRange :=
  ⟨UInt8.lt_trans s.x_lt (by decide), UInt8.lt_trans s.y_lt (by decide), s.rows_lt⟩

namespace Machine

instance (m : Machine) (x y rows : UInt8) (column row : Nat) :
    Decidable (m.Covers x y rows column row) :=
  inferInstanceAs (Decidable (∃ r < rows.toNat, ∃ b < 8, _ ∧ _))

/-- How many of the strokes cover a cell. -/
def layers (m : Machine) (strokes : List Stroke) (column row : Nat) : Nat :=
  strokes.countP fun s => m.Covers s.x s.y s.rows column row

/-- From `m` to `n` each cell has been turned over once for each stroke that covers it, and nothing
else has changed but the flag and the counter. -/
structure Overdrawn (m : Machine) (strokes : List Stroke) (n : Machine) : Prop where
  cells : ∀ column < 64, ∀ row < 32,
    n.screen.pixel column row =
      Screen.turn^[m.layers strokes column row] (m.screen.pixel column row)
  registers : ∀ j < 15, n.val j = m.val j
  rest : n = { m with v := n.v, pc := n.pc, screen := n.screen }

section

variable {m n k : Machine} {strokes others : List Stroke} {s t : Stroke} {column row : Nat}

/-! ### Layers -/

theorem layers_cons :
    m.layers (s :: strokes) column row =
      m.layers strokes column row + if m.Covers s.x s.y s.rows column row then 1 else 0 := by
  simp only [layers, List.countP_cons, decide_eq_true_eq]

theorem layers_perm (perm : strokes.Perm others) :
    m.layers strokes column row = m.layers others column row :=
  perm.countP_eq _

/-- Where each stroke comes an even number of times, an even number of them covers a cell. -/
theorem layers_even (paired : ∀ s, Even (strokes.count s)) :
    Even (m.layers strokes column row) := by
  rw [layers, ← List.sum_map_count_dedup_filter_eq_countP, even_iff_two_dvd]
  refine List.dvd_sum fun count member => ?_
  obtain ⟨s, -, rfl⟩ := List.mem_map.1 member
  exact (paired s).two_dvd

/-! ### A stroke, and the strokes after it -/

variable {x y rows : UInt8}

theorem Drawn.val_eq (drawn : m.Drawn x y rows n) {j : UInt8} (low : j < 15) : n.val j = m.val j :=
  drawn.registers j (UInt8.lt_trans low (by decide)) (UInt8.ne_of_lt low)

/-- After a draw every stroke covers what it did before. -/
theorem Drawn.covers_iff (drawn : m.Drawn x y rows n) :
    n.Covers s.x s.y s.rows column row ↔ m.Covers s.x s.y s.rows column row := by
  have index : n.index = m.index := by rw [drawn.rest]
  have memory : n.memory = m.memory := by rw [drawn.rest]
  simp only [Covers, index, memory, drawn.val_eq s.x_lt, drawn.val_eq s.y_lt]

theorem Drawn.layers_eq (drawn : m.Drawn x y rows n) :
    n.layers strokes column row = m.layers strokes column row := by
  simp only [layers, drawn.covers_iff]

theorem Drawn.flag_iff (drawn : m.Drawn x y rows n) :
    n.val 15 = 1 ↔ m.Collides x y rows := by
  by_cases collides : m.Collides x y rows
  · exact iff_of_true (drawn.hit collides) collides
  · refine iff_of_false ?_ collides
    rw [drawn.miss collides]
    decide

theorem Overdrawn.refl (m : Machine) : m.Overdrawn [] m where
  cells _ _ _ _ := rfl
  registers _ _ := rfl
  rest := rfl

/-- A stroke and what a list of strokes leaves after it make up what the longer list leaves. -/
theorem Drawn.overdrawn (drawn : m.Drawn s.x s.y s.rows n) (later : n.Overdrawn strokes k) :
    m.Overdrawn (s :: strokes) k where
  cells column hc row hr := by
    rw [later.cells column hc row hr, drawn.layers_eq, layers_cons]
    by_cases covers : m.Covers s.x s.y s.rows column row
    · rw [if_pos covers, drawn.covered column hc row hr covers]
      rfl
    · rw [if_neg covers, drawn.uncovered column hc row hr covers]
      rfl
  registers j low := (later.registers j low).trans (drawn.val_eq low)
  rest := by
    rw [later.rest, drawn.rest]

/-- **What a list of strokes leaves.** -/
theorem yieldsAll_overdrawn (binary : m.screen.Binary) (strokes : List Stroke) :
    m.YieldsAll (strokes.map Stroke.instruction) (m.Overdrawn strokes) := by
  induction strokes generalizing m with
  | nil => exact .refl m
  | cons s strokes ih =>
      refine yields_of_unrefused s.inRange (fun _ => rfl) fun pc => ?_
      have drawn := drawn_effect (m := m) (x := s.x) (y := s.y) binary s.rows_lt pc
      have later := ih (m := { m with pc }.effect s.instruction) (binary.flip _)
      exact later.mono fun k => drawn.overdrawn

/-! ### Order, cancelling and the flag -/

theorem Overdrawn.screen_eq (first : m.Overdrawn strokes n) (second : m.Overdrawn others k)
    (same : ∀ column row, m.layers strokes column row = m.layers others column row) :
    n.screen = k.screen :=
  Screen.ext_pixel fun column hc row hr => by
    rw [first.cells column hc row hr, second.cells column hc row hr, same]

theorem Overdrawn.screen_restored (overdrawn : m.Overdrawn strokes n)
    (paired : ∀ s, Even (strokes.count s)) : n.screen = m.screen :=
  Screen.ext_pixel fun column hc row hr => by
    rw [overdrawn.cells column hc row hr,
      Screen.turn_involutive.iterate_even (layers_even paired), id]

/-- A stroke drawn once more hits where it turned a cell on, which was off. -/
theorem Drawn.again (first : m.Drawn s.x s.y s.rows n) (second : n.Drawn s.x s.y s.rows k) :
    k.val 15 = 1 ↔
      ∃ column row, m.Covers s.x s.y s.rows column row ∧ m.screen.pixel column row = 0 := by
  rw [second.flag_iff]
  refine exists_congr fun column => exists_congr fun row => ?_
  rw [first.covers_iff]
  refine and_congr_right fun covers => ?_
  have inside : column < 64 ∧ row < 32 := by
    obtain ⟨-, -, -, -, -, rfl, rfl⟩ := covers
    exact ⟨Nat.mod_lt _ (by decide), Nat.mod_lt _ (by decide)⟩
  rw [first.covered column inside.1 row inside.2 covers]
  exact Screen.turn_eq_one_iff

theorem yieldsAll_again (binary : m.screen.Binary) (s : Stroke) :
    m.YieldsAll [s.instruction, s.instruction] fun n =>
      n.val 15 = 1 ↔
        ∃ column row, m.Covers s.x s.y s.rows column row ∧ m.screen.pixel column row = 0 := by
  refine yields_of_unrefused s.inRange (fun _ => rfl) fun pc => ?_
  have first := drawn_effect (m := m) (x := s.x) (y := s.y) binary s.rows_lt pc
  refine yields_of_unrefused s.inRange (fun _ => rfl) fun further => ?_
  exact first.again (drawn_effect (binary.flip _) s.rows_lt further)

/-- **The order of strokes does not matter, and pairs of them cancel.**  On every machine a host can
come to, a list of draws that do not read their corner from the flag register turns each cell over
once for each of them that covers it, and keeps every register but the flag, the index, memory
and all else but the counter.  So two orders of one list leave the same screen, and a list that has
each draw an even number of times leaves the screen as it was.  A draw made twice in a row
sets the flag exactly if a cell it covers was off before the first. -/
theorem overdrawing (reachable : m.Reachable) :
    (∀ strokes, m.YieldsAll (strokes.map Stroke.instruction) (m.Overdrawn strokes)) ∧
      (∀ strokes others : List Stroke, strokes.Perm others →
        m.YieldsAll (strokes.map Stroke.instruction) fun n =>
          m.YieldsAll (others.map Stroke.instruction) fun k => n.screen = k.screen) ∧
      (∀ strokes : List Stroke, (∀ s, Even (strokes.count s)) →
        m.YieldsAll (strokes.map Stroke.instruction) fun n => n.screen = m.screen) ∧
      ∀ s : Stroke, m.YieldsAll [s.instruction, s.instruction] fun n =>
        n.val 15 = 1 ↔
          ∃ column row, m.Covers s.x s.y s.rows column row ∧ m.screen.pixel column row = 0 := by
  have binary := reachable.wellFormed.screen
  have leaves := yieldsAll_overdrawn binary
  refine ⟨leaves, fun strokes others perm => ?_, fun strokes paired => ?_, yieldsAll_again binary⟩
  · exact (leaves strokes).mono fun n first =>
      (leaves others).mono fun k second => first.screen_eq second fun _ _ => layers_perm perm
  · exact (leaves strokes).mono fun n overdrawn => overdrawn.screen_restored paired

end

/-- A machine about to draw the digit `0` in the corner of the screen, then two columns to the right
and over it, and then both once more. -/
def overlap : Machine :=
  (boot {} 0 (some [0x61, 0x02, 0xD0, 0x05, 0xD1, 0x05, 0xD0, 0x05, 0xD1, 0x05])).machine.after
    [.step]

/-- The four steps leave the screen as it was, and the first draw made twice sets the flag. -/
theorem overlap_overdrawn :
    overlap.Reachable ∧ (overlap.after [.step, .step, .step, .step]).screen = overlap.screen ∧
      ∃ n, ([Instruction.draw 0 0 5, .draw 0 0 5].forM carryOut).run overlap = .ok () n ∧
        n.val 15 = 1 := by
  have reachable : overlap.Reachable :=
    ⟨{}, 0, some [0x61, 0x02, 0xD0, 0x05, 0xD1, 0x05, 0xD0, 0x05, 0xD1, 0x05], [.step], rfl⟩
  let left : Stroke := ⟨0, 0, 5, by decide, by decide, by decide⟩
  let right : Stroke := ⟨1, 0, 5, by decide, by decide, by decide⟩
  have paired (s : Stroke) : Even (([left, right] ++ [left, right]).count s) := by
    rw [List.count_append]
    exact Even.add_self _
  have ran : (overlap.history (List.replicate 4 .step)).map Moment.executed? =
      [some (.draw 0 0 5), some (.draw 1 0 5), some (.draw 0 0 5), some (.draw 1 0 5)] := by
    decide +kernel
  have covers : overlap.Covers 0 0 5 0 0 := ⟨0, by decide, 0, by decide, by decide +kernel⟩
  have off : overlap.screen.pixel 0 0 = 0 := by decide +kernel
  obtain ⟨-, -, restored, again⟩ := overdrawing reachable
  refine ⟨reachable, (restored _ paired).stepped ran, ?_⟩
  obtain ⟨n, executed, flag⟩ := (again left).executed
  exact ⟨n, executed, flag.2 ⟨0, 0, covers, off⟩⟩

end Machine

end Chip8
