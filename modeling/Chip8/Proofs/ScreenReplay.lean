/-
# Chip8.Proofs.ScreenReplay -- a cell by its history

A screen that stands alone is turned over cell by cell at positions that wrap, read and written cell
by cell at numbers that must be in range, and cleared.  Whatever the calls, and also where some of
them failed, a cell holds what was last written to it since the last clear, as off or on, turned
over once for each turn since then.

* `Screen.call`: one call, with what it answers; `Screen.afterCalls`: the screen after some;
* `showsOn`: what a cell should hold, read off the calls alone;
* `get_call`: what one call does to a cell;
* `get_afterCalls`: so every cell holds what it should, over any calls;
* `call_error_iff`: only a number that is out of range fails;
* `screen_replay`: all of it, with what the calls answer.
-/
import Chip8.Proofs.Drawing
import Chip8.Proofs.Recent
import Mathlib.Data.Set.Function

namespace Chip8

set_option autoImplicit false

theorem mod_2048_lt (i : Nat) : i % 2048 < 2048 := Nat.mod_lt i (Nat.succ_pos 2047)

namespace Screen

/-! ## Calls -/

inductive Call
  /-- Turns the cell at a position over; answers whether it was on. -/
  | turn (x y : Nat)
  /-- Answers what the cell at a position holds. -/
  | look (x y : Nat)
  | read (i : Nat)
  | write (i : Nat) (value : UInt8)
  | clear
  deriving DecidableEq, Repr

inductive Answer
  | done
  | wasOn (on : Bool)
  | cell (value : UInt8)
  deriving DecidableEq, Repr

/-- The screen that a call leaves, and what it answers. -/
structure Outcome where
  screen : Screen
  result : Except Fault Answer

/-- A call that fails leaves the screen as it was. -/
def call (s : Screen) : Call → Outcome
  | .turn x y => ⟨s.toggle x y, .ok (.wasOn (s.isOn x y))⟩
  | .look x y => ⟨s, .ok (.cell (s.pixel x y))⟩
  | .read i => ⟨s, (s.read i).map .cell⟩
  | .write i value =>
      match s.write i value with
      | .ok written => ⟨written, .ok .done⟩
      | .error fault => ⟨s, .error fault⟩
  | .clear => ⟨.blank, .ok .done⟩

/-- The screen after a list of calls; a fault stops none of them. -/
def afterCalls (s : Screen) (calls : List Call) : Screen :=
  calls.foldl (fun s c => (s.call c).screen) s

/-! ## What a cell should hold -/

/-- The value that a call writes to a cell. -/
def Call.written? (i : Nat) : Call → Option UInt8
  | write j value => if j = i then some value else none
  | _ => none

/-- The call turns a cell over: its position, wrapped and counted along the rows, is the cell's
number. -/
def Call.turns (i : Nat) : Call → Bool
  | turn x y => y % 32 * 64 + x % 64 = i
  | _ => false

def Call.clears (c : Call) : Bool := c == clear

/-- The call makes a cell forget what it was. -/
def Call.sets (i : Nat) (c : Call) : Bool := c.clears || (c.written? i).isSome

/-- The value last written to a cell since the last clear, zero if there was none. -/
def lastWritten (i : Nat) (calls : List Call) : UInt8 :=
  (latest (Call.written? i) (since Call.clears calls)).getD 0

/-- How often a cell was turned over since it was last written or cleared. -/
def turnsSince (i : Nat) (calls : List Call) : Nat :=
  (since (Call.sets i) calls).countP (Call.turns i)

/-- Whether a cell should be on after some calls on a blank screen. -/
def showsOn (i : Nat) (calls : List Call) : Bool :=
  lastWritten i calls != 0 ^^ decide (turnsSince i calls % 2 = 1)

theorem lastWritten_concat (i : Nat) (calls : List Call) (c : Call) :
    lastWritten i (calls ++ [c]) =
      if c.clears then 0 else (c.written? i).getD (lastWritten i calls) := by
  unfold lastWritten
  rw [since_concat]
  by_cases clear : c.clears = true
  · rw [if_pos clear, if_pos clear]
    rfl
  · rw [if_neg clear, if_neg clear, latest_concat]
    cases c.written? i with
    | none => rfl
    | some value => rfl

theorem turnsSince_concat (i : Nat) (calls : List Call) (c : Call) :
    turnsSince i (calls ++ [c]) =
      if c.sets i then 0 else turnsSince i calls + if c.turns i then 1 else 0 := by
  unfold turnsSince
  rw [since_concat]
  by_cases set : c.sets i = true
  · rw [if_pos set, if_pos set]
    rfl
  · rw [if_neg set, if_neg set, List.countP_append, List.countP_singleton]

/-- What one call more means for a cell: it is set, turned over, or kept. -/
theorem showsOn_concat (i : Nat) (calls : List Call) (c : Call) :
    showsOn i (calls ++ [c]) =
      if c.clears then false
      else match c.written? i with
        | some value => value != 0
        | none => showsOn i calls ^^ c.turns i := by
  unfold showsOn
  rw [lastWritten_concat, turnsSince_concat]
  by_cases clear : c.clears = true
  · have set : c.sets i = true := by simp [Call.sets, clear]
    rw [if_pos clear, if_pos clear, if_pos set]
    rfl
  · rw [if_neg clear, if_neg clear]
    cases written : c.written? i with
    | some value =>
        have set : c.sets i = true := by simp [Call.sets, written]
        rw [if_pos set]
        simp
    | none =>
        have kept : ¬ c.sets i = true := by simp [Call.sets, written, clear]
        rw [if_neg kept, Option.getD_none, decide_odd_add, Bool.decide_eq_true, Bool.xor_assoc]

/-! ## Cells by number -/

/-- The cell a number names; from 2048 on they go around. -/
def numbered (i : Nat) : Fin 2048 := ⟨i % 2048, mod_2048_lt i⟩

theorem val_numbered {i : Nat} (inside : i < 2048) : (numbered i).val = i :=
  Nat.mod_eq_of_lt inside

theorem numbered_val (i : Fin 2048) : numbered i = i := Fin.ext (val_numbered i.isLt)

theorem read_eq (s : Screen) (i : Nat) :
    s.read i =
      if i < 2048 then .ok (Table.get s.cells (numbered i)) else .error (.outOfRange 2048 i) := by
  unfold read entry
  by_cases inside : i < 2048
  · simp [inside, Table.get, numbered, Nat.mod_eq_of_lt inside]
  · simp [inside]

theorem write_eq (s : Screen) (i : Nat) (value : UInt8) :
    s.write i value =
      if i < 2048 then .ok ⟨Table.set s.cells (numbered i) (if value = 0 then 0 else 1)⟩
      else .error (.outOfRange 2048 i) := by
  unfold write withEntry
  by_cases inside : i < 2048
  · simp [inside, Table.set, numbered, Nat.mod_eq_of_lt inside, bind, Except.bind, pure,
      Except.pure]
  · simp [inside, bind, Except.bind]

/-- The cell at a position has the number of the wrapped position, counted along the rows. -/
theorem cell_eq_iff (x y : Nat) (i : Fin 2048) : cell x y = i ↔ y % 32 * 64 + x % 64 = i := by
  rw [Fin.ext_iff]
  rfl

theorem read_position (s : Screen) (x y : Nat) :
    s.read (y % 32 * 64 + x % 64) = .ok (s.pixel x y) := by
  have inside : y % 32 * 64 + x % 64 < 2048 := by omega
  have named : numbered (y % 32 * 64 + x % 64) = cell x y := by
    rw [eq_comm, cell_eq_iff]
    exact (Nat.mod_eq_of_lt inside).symm
  rw [read_eq, if_pos inside, named, pixel]

/-! ## One call -/

variable {s : Screen}

/-- What is stored of a value: only whether it is zero. -/
theorem stored_eq (value : UInt8) :
    (if value = 0 then 0 else 1 : UInt8) = (value != 0).toUInt8 := by
  by_cases zero : value = 0
  · subst zero
    rfl
  · have nonzero : (value != 0) = true := bne_iff_ne.2 zero
    rw [if_neg zero, nonzero]
    rfl

theorem get_toggle (binary : s.Binary) (x y : Nat) (i : Fin 2048) :
    Table.get (s.toggle x y).cells i =
      if cell x y = i then (!s.isOn x y).toUInt8 else Table.get s.cells i := by
  have turned : (s.pixel x y ^^^ 1 != 0) = !s.isOn x y := by
    rw [binary.pixel_eq]
    cases s.isOn x y with
    | true => rfl
    | false => rfl
  rw [toggle, Table.get_set, stored_eq, turned]

/-- **What one call does to a cell**: it writes it, turns it over, or keeps it. -/
theorem get_call (c : Call) {i : Fin 2048} {on : Bool} (binary : s.Binary)
    (holds : Table.get s.cells i = on.toUInt8) :
    Table.get (s.call c).screen.cells i =
      (if c.clears then false
        else match c.written? i with
          | some value => value != 0
          | none => on ^^ c.turns i).toUInt8 := by
  cases c with
  | turn x y =>
      show Table.get (s.toggle x y).cells i = (on ^^ decide (y % 32 * 64 + x % 64 = i)).toUInt8
      rw [get_toggle binary]
      by_cases here : cell x y = i
      · have isOn : s.isOn x y = on := by
          subst here
          rw [isOn, pixel, holds]
          cases on with
          | true => rfl
          | false => rfl
        rw [if_pos here, isOn, decide_eq_true ((cell_eq_iff x y i).1 here), Bool.xor_true]
      · rw [if_neg here, holds, decide_eq_false (mt (cell_eq_iff x y i).2 here), Bool.xor_false]
  | look x y | read j =>
      show Table.get s.cells i = (on ^^ false).toUInt8
      rw [holds, Bool.xor_false]
  | write j value =>
      show Table.get (match s.write j value with
        | .ok written => (⟨written, .ok .done⟩ : Outcome)
        | .error fault => ⟨s, .error fault⟩).screen.cells i =
          (match (if j = i then some value else none : Option UInt8) with
            | some value => value != 0
            | none => on ^^ false).toUInt8
      rw [write_eq]
      by_cases inside : j < 2048
      · rw [if_pos inside]
        by_cases here : j = i
        · subst here
          simp only [Table.get_set, numbered_val, if_true, stored_eq]
        · have apart : numbered j ≠ i := by
            intro same
            apply here
            rw [← same, val_numbered inside]
          simp [here, apart, holds]
      · have other : j ≠ i := by
          have := i.isLt
          omega
        simp [inside, other, holds]
  | clear =>
      show Table.get blank.cells i = false.toUInt8
      rw [blank, Table.get_replicate]
      rfl

theorem Binary.call (binary : s.Binary) (c : Call) : (s.call c).screen.Binary := by
  intro i
  have holds : ∃ on : Bool, Table.get s.cells i = on.toUInt8 := by
    rcases binary i with off | on
    · exact ⟨false, off⟩
    · exact ⟨true, on⟩
  obtain ⟨on, holds⟩ := holds
  rw [get_call c binary holds]
  generalize (if c.clears then false else _) = on
  cases on with
  | true => exact .inr rfl
  | false => exact .inl rfl

/-! ## Any calls -/

theorem afterCalls_concat (s : Screen) (calls : List Call) (c : Call) :
    s.afterCalls (calls ++ [c]) = ((s.afterCalls calls).call c).screen := by
  rw [afterCalls, List.foldl_append]
  rfl

theorem Binary.afterCalls (binary : s.Binary) (calls : List Call) :
    (s.afterCalls calls).Binary := by
  induction calls using List.reverseRecOn with
  | nil => exact binary
  | append_singleton calls c ih =>
      rw [afterCalls_concat]
      exact ih.call c

/-- **Every cell holds what it should**, whatever was called on a blank screen. -/
theorem get_afterCalls (calls : List Call) (i : Fin 2048) :
    Table.get (blank.afterCalls calls).cells i = (showsOn i calls).toUInt8 := by
  induction calls using List.reverseRecOn with
  | nil => exact Table.get_replicate 0 i
  | append_singleton calls c ih =>
      rw [afterCalls_concat, showsOn_concat]
      exact get_call c (binary_blank.afterCalls calls) ih

/-! ## Answers -/

/-- **Only a number that is out of range fails.**  A turn and a look name a position, which always
wraps to a cell. -/
theorem call_error_iff {c : Call} {fault : Fault} :
    (s.call c).result = .error fault ↔
      ∃ i, 2048 ≤ i ∧ (c = .read i ∨ ∃ value, c = .write i value) ∧ fault = .outOfRange 2048 i := by
  cases c with
  | turn x y | look x y | clear => simp [call]
  | read i =>
      simp only [call, read_eq]
      by_cases inside : i < 2048
      · simp [inside, Except.map]
      · simp [inside, Nat.not_lt.1 inside, Except.map, eq_comm]
  | write i value =>
      simp only [call, write_eq]
      by_cases inside : i < 2048
      · simp [inside]
      · simp [inside, Nat.not_lt.1 inside, eq_comm]

theorem call_error_screen {c : Call} {fault : Fault} (failed : (s.call c).result = .error fault) :
    (s.call c).screen = s := by
  obtain ⟨i, outside, rfl | ⟨value, rfl⟩, -⟩ := call_error_iff.1 failed
  · rfl
  · simp only [call, write_eq, if_neg (Nat.not_lt.2 outside)]

/-- A turn answers whether its cell was on, and turns over that cell alone. -/
structure TurnsOver (s : Screen) (x y : Nat) : Prop where
  answer : ∃ on, (s.call (.turn x y)).result = .ok (.wasOn on) ∧
    (on = true ↔ s.read (y % 32 * 64 + x % 64) = .ok 1)
  cell : ∀ value, s.read (y % 32 * 64 + x % 64) = .ok value →
    (s.call (.turn x y)).screen.read (y % 32 * 64 + x % 64) = .ok (1 - value)
  others : ∀ i, i ≠ y % 32 * 64 + x % 64 → (s.call (.turn x y)).screen.read i = s.read i

theorem Binary.turnsOver (binary : s.Binary) (x y : Nat) : s.TurnsOver x y where
  answer := by
    refine ⟨s.isOn x y, rfl, ?_⟩
    rw [read_position, isOn, beq_iff_eq, Except.ok.injEq]
  cell := by
    intro value holds
    obtain rfl : s.pixel x y = value := by
      rw [read_position] at holds
      exact Except.ok.inj holds
    show (s.toggle x y).read _ = _
    rw [read_position, pixel, get_toggle binary, if_pos rfl, binary.pixel_eq]
    cases s.isOn x y with
    | true => rfl
    | false => rfl
  others := by
    intro i other
    show (s.toggle x y).read i = s.read i
    rw [read_eq, read_eq]
    by_cases inside : i < 2048
    · have apart : Screen.cell x y ≠ numbered i := by
        intro same
        have position := (cell_eq_iff x y (numbered i)).1 same
        rw [val_numbered inside] at position
        exact other position.symm
      rw [if_pos inside, if_pos inside, get_toggle binary, if_neg apart]
    · rw [if_neg inside, if_neg inside]

/-- On the screen, positions and numbers name the same cells, each once. -/
theorem number_bijOn :
    Set.BijOn (fun p : Nat × Nat => number p.1 p.2) {p | p.1 < 64 ∧ p.2 < 32} {i | i < 2048} := by
  refine ⟨?_, ?_, ?_⟩
  · rintro ⟨x, y⟩ ⟨hx, hy⟩
    show y * 64 + x < 2048
    omega
  · rintro ⟨x, y⟩ ⟨hx, hy⟩ ⟨x', y'⟩ ⟨hx', hy'⟩ same
    have equal : y * 64 + x = y' * 64 + x' := same
    refine Prod.ext ?_ ?_
    · show x = x'
      omega
    · show y = y'
      omega
  · intro i inside
    have low : i < 2048 := inside
    refine ⟨(i % 64, i / 64), ⟨?_, ?_⟩, ?_⟩
    · show i % 64 < 64
      omega
    · show i / 64 < 32
      omega
    · show i / 64 * 64 + i % 64 = i
      omega

/-- **A screen is the replay of its calls.**  After any calls on a blank screen, failed ones among
them, a cell is on if the value last written to it since the last clear was not zero, turned over
once for each turn of it since that write or clear.  A turn answers whether its cell was on and
turns over no other, a look answers its cell, and neither ever fails.  A read and a write fail
exactly if their number is 2048 or more, and then nothing has changed.  Every cell is off or on,
and the positions of the screen are numbered one to one. -/
theorem screen_replay (calls : List Call) :
    let s := blank.afterCalls calls
    (∀ i < 2048, s.read i = .ok (showsOn i calls).toUInt8 ∧
        s.call (.read i) = ⟨s, .ok (.cell (showsOn i calls).toUInt8)⟩) ∧
      s.Binary ∧
      (∀ x y, s.TurnsOver x y) ∧
      (∀ x y, ∃ value, s.read (y % 32 * 64 + x % 64) = .ok value ∧
        s.call (.look x y) = ⟨s, .ok (.cell value)⟩) ∧
      (∀ c fault, (s.call c).result = .error fault ↔
        ∃ i, 2048 ≤ i ∧ (c = .read i ∨ ∃ value, c = .write i value) ∧
          fault = .outOfRange 2048 i) ∧
      (∀ c fault, (s.call c).result = .error fault → (s.call c).screen = s) ∧
      Set.BijOn (fun p : Nat × Nat => number p.1 p.2) {p | p.1 < 64 ∧ p.2 < 32} {i | i < 2048} := by
  intro s
  have binary : s.Binary := binary_blank.afterCalls calls
  refine ⟨?_, binary, binary.turnsOver, ?_, fun c fault => call_error_iff,
    fun c fault => call_error_screen, number_bijOn⟩
  · intro i inside
    have holds : s.read i = .ok (showsOn i calls).toUInt8 := by
      rw [read_eq, if_pos inside, get_afterCalls, val_numbered inside]
    refine ⟨holds, ?_⟩
    rw [call, holds]
    rfl
  · intro x y
    exact ⟨s.pixel x y, s.read_position x y, rfl⟩

/-- Of two turns of one cell, at positions a screen apart, only the one after the write counts. -/
example : showsOn 69 [.turn 5 1, .write 69 0, .write 4000 1, .turn 69 33] = true := by decide

end Screen

end Chip8
