/-
# Chip8.Proofs.Drawing -- what a sprite does to the screen

A draw turns over, one after another, the cells that the set bits of its sprite cover.  A sprite
has at most fifteen rows of eight, and the screen 32 of 64, so no cell is covered twice, also
where the sprite goes around an edge: each covered cell is turned over once, and whether one was
on is a question about the screen before the draw.

* `isOn_flip`: a list of positions turns a cell over as often as it names it;
* `hit_flip`: where no cell is named twice, it hits exactly if it names one that was on;
* `mem_footprint`, `footprint_nodup`: the positions of a sprite, none of them twice;
* `covered_distinct`: nor do two of them wrap to one cell;
* `draw_exact`: so for the draw instruction on any machine a host can come to.
-/
import Chip8.Proofs.Alike
import Chip8.Proofs.Frame
import Mathlib.Data.List.Nodup

namespace Chip8

set_option autoImplicit false

/-! ## Lists of positions -/

/-- One turn more is one more in the count, and turns the parity over. -/
theorem decide_odd_add (n : Nat) (turned : Prop) [Decidable turned] :
    decide ((n + if turned then 1 else 0) % 2 = 1) = (decide (n % 2 = 1) ^^ decide turned) := by
  by_cases one : turned
  · have odd : decide ((n + 1) % 2 = 1) = !decide (n % 2 = 1) := by
      rw [← decide_not]
      exact decide_eq_decide.2 (by omega)
    simp [one, odd]
  · simp [one]

namespace Screen

/-- The cells of a list of positions. -/
def cellsOf (positions : List (Nat × Nat)) : List (Fin 2048) :=
  positions.map fun p => cell p.1 p.2

theorem isOn_toggle (s : Screen) (x y x' y' : Nat) :
    (s.toggle x y).isOn x' y' = (s.isOn x' y' ^^ decide (cell x y = cell x' y')) := by
  simp only [isOn, pixel_toggle]
  by_cases same : cell x y = cell x' y'
  · have pixel : s.pixel x y = s.pixel x' y' := by simp only [Screen.pixel, same]
    rw [if_pos same, pixel]
    by_cases on : s.pixel x' y' = 1
    · simp [same, on]
    · simp [same, on]
  · simp [same]

/-- **A list of positions turns a cell over as often as it names it.** -/
theorem isOn_flip (s : Screen) (positions : List (Nat × Nat)) (x y : Nat) :
    (s.flip positions).1.isOn x y =
      (s.isOn x y ^^ decide ((cellsOf positions).count (cell x y) % 2 = 1)) := by
  induction positions generalizing s with
  | nil => simp [flip, cellsOf]
  | cons p rest ih =>
      have names : (cellsOf (p :: rest)).count (cell x y) =
          (cellsOf rest).count (cell x y) + if cell p.1 p.2 = cell x y then 1 else 0 := by
        simp [cellsOf, List.count_cons]
      show ((s.toggle p.1 p.2).flip rest).1.isOn x y = _
      rw [ih, isOn_toggle, names, decide_odd_add, Bool.xor_assoc,
        Bool.xor_comm (decide (cell p.1 p.2 = cell x y))]

/-- A cell that is off or on is what its view says. -/
theorem Binary.pixel_eq {s : Screen} (binary : s.Binary) (x y : Nat) :
    s.pixel x y = (s.isOn x y).toUInt8 := by
  rcases binary (cell x y) with off | on
  · have pixel : s.pixel x y = 0 := off
    rw [isOn, pixel]
    rfl
  · have pixel : s.pixel x y = 1 := on
    rw [isOn, pixel]
    rfl

section

variable {s : Screen} {positions : List (Nat × Nat)} {x y : Nat}

theorem pixel_flip_of_mem (binary : s.Binary) (distinct : (cellsOf positions).Nodup)
    (named : cell x y ∈ cellsOf positions) :
    (s.flip positions).1.pixel x y = 1 - s.pixel x y := by
  have once := List.count_eq_one_of_mem distinct named
  rw [(binary.flip positions).pixel_eq, binary.pixel_eq, isOn_flip, once]
  cases s.isOn x y <;> rfl

theorem pixel_flip_of_not_mem (binary : s.Binary) (other : cell x y ∉ cellsOf positions) :
    (s.flip positions).1.pixel x y = s.pixel x y := by
  have never := List.count_eq_zero_of_not_mem other
  rw [(binary.flip positions).pixel_eq, binary.pixel_eq, isOn_flip, never]
  simp

end

theorem pixel_wrapped (s : Screen) (x y : Nat) : s.pixel (x % 64) (y % 32) = s.pixel x y := by
  have same : cell (x % 64) (y % 32) = cell x y :=
    cell_inj.2 ⟨Nat.mod_mod _ _, Nat.mod_mod _ _⟩
  rw [pixel, pixel, same]

/-- **Where no cell is named twice, a list of positions hits exactly if it names one that was
on** before any of them was turned over. -/
theorem hit_flip (s : Screen) {positions : List (Nat × Nat)}
    (distinct : (cellsOf positions).Nodup) :
    (s.flip positions).2 = true ↔ ∃ p ∈ positions, s.isOn p.1 p.2 = true := by
  induction positions generalizing s with
  | nil => simp [flip]
  | cons p rest ih =>
      obtain ⟨new, distinct⟩ := List.nodup_cons.1 distinct
      -- Turning the first cell over is not seen by the others, which are different cells.
      have later : ∀ q ∈ rest, (s.toggle p.1 p.2).isOn q.1 q.2 = s.isOn q.1 q.2 := by
        intro q member
        have apart : cell p.1 p.2 ≠ cell q.1 q.2 := by
          intro same
          exact new (List.mem_map.2 ⟨q, member, same.symm⟩)
        simp [isOn_toggle, apart]
      show (s.isOn p.1 p.2 || ((s.toggle p.1 p.2).flip rest).2) = true ↔ _
      rw [Bool.or_eq_true, ih _ distinct, List.exists_mem_cons_iff]
      refine or_congr_right (exists_congr fun q => and_congr_right fun member => ?_)
      rw [later q member]

end Screen

/-! ## Sprites -/

namespace Sprite

theorem mem_columns {x c : Nat} {row : UInt8} :
    c ∈ columns x row ↔ ∃ b < 8, row.toNat.testBit (7 - b) = true ∧ c = x + b := by
  simp only [columns, List.mem_map, List.mem_filter, List.mem_range]
  constructor
  · rintro ⟨b, ⟨inside, set⟩, rfl⟩
    exact ⟨b, inside, set, rfl⟩
  · rintro ⟨b, inside, set, rfl⟩
    exact ⟨b, ⟨inside, set⟩, rfl⟩

/-- The positions of a sprite: one for each set bit of each row. -/
theorem mem_footprint {x y : Nat} {sprite : List UInt8} {p : Nat × Nat} :
    p ∈ footprint x y sprite ↔
      ∃ r, ∃ row ∈ sprite[r]?, ∃ b < 8, row.toNat.testBit (7 - b) = true ∧ p = (x + b, y + r) := by
  induction sprite generalizing y with
  | nil => simp [footprint]
  | cons row rows ih =>
      simp only [footprint, List.mem_append, List.mem_map, mem_columns, ih]
      constructor
      · rintro (⟨c, ⟨b, inside, set, rfl⟩, rfl⟩ | ⟨r, below, member, b, inside, set, rfl⟩)
        · exact ⟨0, row, rfl, b, inside, set, rfl⟩
        · refine ⟨r + 1, below, member, b, inside, set, ?_⟩
          rw [Nat.add_assoc, Nat.add_comm 1]
      · rintro ⟨r, some, member, b, inside, set, rfl⟩
        cases r with
        | zero =>
            obtain rfl := Option.some.inj member
            exact .inl ⟨x + b, ⟨b, inside, set, rfl⟩, rfl⟩
        | succ r =>
            refine .inr ⟨r, some, member, b, inside, set, ?_⟩
            rw [Nat.add_assoc, Nat.add_comm 1]

theorem footprint_nodup (x y : Nat) (sprite : List UInt8) : (footprint x y sprite).Nodup := by
  induction sprite generalizing y with
  | nil => exact List.nodup_nil
  | cons row rows ih =>
      rw [footprint, List.nodup_append]
      refine ⟨?_, ih (y + 1), ?_⟩
      · have bits : (columns x row).Nodup := by
          refine List.Nodup.map (fun b c same => ?_) (List.nodup_range.filter _)
          exact Nat.add_left_cancel same
        exact bits.map fun c d same => congrArg Prod.fst same
      · -- The first row is above all others.
        rintro p first q further rfl
        obtain ⟨c, -, rfl⟩ := List.mem_map.1 first
        obtain ⟨r, -, -, b, -, -, same⟩ := mem_footprint.1 further
        have height : y = y + 1 + r := congrArg Prod.snd same
        omega

/-- A sprite that is not higher than the screen covers no cell twice, wherever it is put. -/
theorem cell_distinct {x y r r' b b' : Nat} (hr : r < 32) (hr' : r' < 32) (hb : b < 8)
    (hb' : b' < 8) (same : Screen.cell (x + b) (y + r) = Screen.cell (x + b') (y + r')) :
    r = r' ∧ b = b' := by
  have wrapped := Screen.cell_inj.1 same
  omega

theorem cellsOf_footprint_nodup (x y : Nat) {sprite : List UInt8} (low : sprite.length ≤ 32) :
    (Screen.cellsOf (footprint x y sprite)).Nodup := by
  refine List.Nodup.map_on (fun p first q second same => ?_) (footprint_nodup x y sprite)
  obtain ⟨r, row, inside, b, hb, -, rfl⟩ := mem_footprint.1 first
  obtain ⟨r', row', inside', b', hb', -, rfl⟩ := mem_footprint.1 second
  have hr := (List.getElem?_eq_some_iff.1 inside).1
  have hr' := (List.getElem?_eq_some_iff.1 inside').1
  obtain ⟨rfl, rfl⟩ := cell_distinct (by omega) (by omega) hb hb' same
  rfl

end Sprite

/-! ## The draw instruction -/

namespace Machine

variable {m : Machine} {x y rows : UInt8}

/-- The sprite of `rows` bytes at the index, with its corner where `Vx` and `Vy` say, has a set bit
over the cell in this column and row. -/
def Covers (m : Machine) (x y rows : UInt8) (column row : Nat) : Prop :=
  ∃ r < rows.toNat, ∃ b < 8,
    (m.memory.read ((m.index.toNat + r) % 4096)).toNat.testBit (7 - b) = true ∧
      column = ((m.val x).toNat + b) % 64 ∧ row = ((m.val y).toNat + r) % 32

/-- Some cell that the sprite covers is on. -/
def Collides (m : Machine) (x y rows : UInt8) : Prop :=
  ∃ column row, m.Covers x y rows column row ∧ m.screen.pixel column row = 1

/-- From `m` to `n` each cell that the sprite covers has been turned over and no other cell has
changed; the flag tells whether a covered cell was on; and neither another register nor anything
but the counter has changed. -/
structure Drawn (m : Machine) (x y rows : UInt8) (n : Machine) : Prop where
  covered : ∀ column < 64, ∀ row < 32, m.Covers x y rows column row →
    n.screen.pixel column row = 1 - m.screen.pixel column row
  uncovered : ∀ column < 64, ∀ row < 32, ¬ m.Covers x y rows column row →
    n.screen.pixel column row = m.screen.pixel column row
  hit : m.Collides x y rows → n.val 15 = 1
  miss : ¬ m.Collides x y rows → n.val 15 = 0
  registers : ∀ j < 16, j ≠ 15 → n.val j = m.val j
  rest : n = { m with v := n.v, pc := n.pc, screen := n.screen }

theorem getElem?_block (memory : Memory) (a n r : Nat) :
    (memory.block a n)[r]? = if r < n then some (memory.read (a + r)) else none := by
  rw [Memory.block, List.getElem?_map]
  by_cases inside : r < n
  · rw [List.getElem?_range inside, if_pos inside]
    rfl
  · rw [List.getElem?_eq_none (by simpa using inside), if_neg inside]
    rfl

/-- The positions that a draw turns over, before they are wrapped. -/
theorem mem_covered {p : Nat × Nat} :
    p ∈ m.covered x y rows ↔
      ∃ r < rows.toNat, ∃ b < 8,
        (m.memory.read ((m.index.toNat + r) % 4096)).toNat.testBit (7 - b) = true ∧
          p = ((m.val x).toNat + b, (m.val y).toNat + r) := by
  have byte (r : Nat) : m.memory.read ((m.index.toNat + r) % 4096) =
      m.memory.read (m.index.toNat + r) := m.memory.read_congr (Nat.mod_mod _ _)
  simp only [Machine.covered, Sprite.mem_footprint, getElem?_block, byte]
  constructor
  · rintro ⟨r, row, inside, rest⟩
    split at inside
    · rename_i low
      obtain rfl := Option.some.inj inside
      exact ⟨r, low, rest⟩
    · cases inside
  · rintro ⟨r, low, rest⟩
    exact ⟨r, _, if_pos low, rest⟩

/-- On the screen, what the sprite covers are the cells of these positions. -/
theorem covers_iff {column row : Nat} (hc : column < 64) (hr : row < 32) :
    m.Covers x y rows column row ↔
      Screen.cell column row ∈ Screen.cellsOf (m.covered x y rows) := by
  constructor
  · rintro ⟨r, low, b, hb, set, rfl, rfl⟩
    refine List.mem_map.2 ⟨_, mem_covered.2 ⟨r, low, b, hb, set, rfl⟩, ?_⟩
    rw [Screen.cell_inj]
    exact ⟨(Nat.mod_mod _ _).symm, (Nat.mod_mod _ _).symm⟩
  · intro named
    obtain ⟨p, member, same⟩ := List.mem_map.1 named
    obtain ⟨r, low, b, hb, set, rfl⟩ := mem_covered.1 member
    obtain ⟨sameColumn, sameRow⟩ := Screen.cell_inj.1 same
    rw [Nat.mod_eq_of_lt hc] at sameColumn
    rw [Nat.mod_eq_of_lt hr] at sameRow
    exact ⟨r, low, b, hb, set, sameColumn.symm, sameRow.symm⟩

theorem collides_iff :
    m.Collides x y rows ↔ ∃ p ∈ m.covered x y rows, m.screen.isOn p.1 p.2 = true := by
  constructor
  · rintro ⟨_, _, ⟨r, low, b, hb, set, rfl, rfl⟩, on⟩
    refine ⟨_, mem_covered.2 ⟨r, low, b, hb, set, rfl⟩, ?_⟩
    rw [Screen.pixel_wrapped] at on
    exact beq_iff_eq.2 on
  · rintro ⟨p, member, on⟩
    obtain ⟨r, low, b, hb, set, rfl⟩ := mem_covered.1 member
    refine ⟨_, _, ⟨r, low, b, hb, set, rfl, rfl⟩, ?_⟩
    rw [Screen.pixel_wrapped]
    exact beq_iff_eq.1 on

theorem covered_distinct (few : rows < 16) : (Screen.cellsOf (m.covered x y rows)).Nodup := by
  have low : rows.toNat < 16 := few
  apply Sprite.cellsOf_footprint_nodup
  simp only [Memory.block, List.length_map, List.length_range]
  omega

theorem hit_iff (few : rows < 16) :
    (m.screen.flip (m.covered x y rows)).2 = true ↔ m.Collides x y rows := by
  rw [Screen.hit_flip _ (covered_distinct few), collides_iff]

/-- The flag is what turning the positions over reports: the corner was read before it is set. -/
theorem effect_draw_flag (pc : UInt16) :
    ({ m with pc }.effect (.draw x y rows)).val 15 =
      (m.screen.flip (m.covered x y rows)).2.toUInt8 := by
  rw [effect, val_setFlag _ (by decide), if_pos rfl]
  rfl

/-- The effect of a draw, wherever the counter stands. -/
theorem drawn_effect (binary : m.screen.Binary) (few : rows < 16) (pc : UInt16) :
    m.Drawn x y rows ({ m with pc }.effect (.draw x y rows)) where
  covered column hc row hr covers :=
    Screen.pixel_flip_of_mem binary (covered_distinct few) ((covers_iff hc hr).1 covers)
  uncovered column hc row hr other :=
    Screen.pixel_flip_of_not_mem binary (mt (covers_iff hc hr).2 other)
  hit collides := by
    rw [effect_draw_flag, (hit_iff few).2 collides]
    rfl
  miss free := by
    rw [effect_draw_flag, Bool.eq_false_iff.2 (mt (hit_iff few).1 free)]
    rfl
  registers j named other := by
    rw [effect, val_setFlag _ named, if_neg other]
    rfl
  rest := rfl

/-- **A draw is exact.**  On every machine a host can come to, the draw instruction turns over the
cells that its sprite covers and no others, and leaves in the flag whether one of them was on
before, with the corner where `Vx` and `Vy` said before, also if one of them is the flag register.
No other register and nothing else but the counter changes.  No cell is covered by two bits of
the sprite. -/
theorem draw_exact (reachable : m.Reachable) (range : (Instruction.draw x y rows).InRange) :
    m.Yields (.draw x y rows) (m.Drawn x y rows) ∧
      ∀ r < rows.toNat, ∀ r' < rows.toNat, ∀ b < 8, ∀ b' < 8,
        Screen.cell ((m.val x).toNat + b) ((m.val y).toNat + r) =
          Screen.cell ((m.val x).toNat + b') ((m.val y).toNat + r') → r = r' ∧ b = b' := by
  have wf := reachable.wellFormed
  have few : rows < 16 := range.2.2
  have low : rows.toNat < 16 := few
  constructor
  · exact yields_of_effect wf range (fun _ => rfl) (drawn_effect wf.screen few)
  · intro r hr r' hr' b hb b' hb'
    exact Sprite.cell_distinct (by omega) (by omega) hb hb'

/-- A machine about to put the number 62 in the flag register. -/
def cornerSet : Machine := (boot {} 0 (some [0x6F, 0x3E, 0xDF, 0xF5])).machine

/-- The machine after that, about to draw the digit `0` around the corner of the screen, with the
corner of the sprite in the flag register. -/
def cornerDigit : Machine := cornerSet.after [.step]

theorem cornerDigit_blank : cornerDigit.screen = .blank := by
  have decoded : cornerSet.next = .loadByte 15 62 := by decide +kernel
  have frame := step_frame_next (boot_wellFormed {} 0 (some [0x6F, 0x3E, 0xDF, 0xF5]))
  change Frame cornerSet.next cornerSet cornerSet.step.machine at frame
  rw [decoded] at frame
  have loaded : cornerSet.screen = .blank :=
    congrArg Machine.screen ((start {} 0).load_parts [0x6F, 0x3E, 0xDF, 0xF5])
  have kept : cornerSet.step.machine.screen = cornerSet.screen := by
    generalize cornerSet.step.machine = n at frame
    exact frame.part .screen id
  have stepped (m : Machine) : m.after [.step] = m.step.machine := rfl
  rw [cornerDigit, stepped, kept, loaded]

/-- The third column of the digit comes out at the left edge, and the flag register ends with
the flag and not with the corner. -/
theorem cornerDigit_drawn :
    cornerDigit.Reachable ∧ (Instruction.draw 15 15 5).InRange ∧
      cornerDigit.step.result = .ok () ∧ cornerDigit.step.machine.screen.pixel 0 30 = 1 ∧
      cornerDigit.step.machine.val 15 = 0 := by
  have reachable : cornerDigit.Reachable := ⟨{}, 0, some [0x6F, 0x3E, 0xDF, 0xF5], [.step], rfl⟩
  have range : (Instruction.draw 15 15 5).InRange := by simp [Instruction.InRange]
  have decoded : decode (cornerDigit.memory.word cornerDigit.pc.toNat) = .draw 15 15 5 := by
    decide +kernel
  have covers : cornerDigit.Covers 15 15 5 0 30 := ⟨0, by decide, 2, by decide, by decide +kernel⟩
  obtain ⟨ok, drawn⟩ := (draw_exact reachable range).1.stepped (Instruction.decode_eq_iff.1 decoded)
  have free : ¬ cornerDigit.Collides 15 15 5 := by
    rintro ⟨column, row, -, on⟩
    rw [cornerDigit_blank, Screen.pixel_blank] at on
    cases on
  refine ⟨reachable, range, ok, ?_, drawn.miss free⟩
  rw [drawn.covered 0 (by decide) 30 (by decide) covers, cornerDigit_blank,
    Screen.pixel_blank]
  rfl

end Machine

end Chip8
