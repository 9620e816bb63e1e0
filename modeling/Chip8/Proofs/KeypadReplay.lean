/-
# Chip8.Proofs.KeypadReplay -- a key by its history

Keys move in two ways: by their number, which counts modulo 16, and by a device code, which means
the first place of the keymap that holds it.  A keymap may hold a code more than once, or not at
all; then the places behind the first are never meant, or no key moves.

* `Keymap.IsFirst`: the code stands at a place and at none before it; `key?_eq_some_iff`: the key a
  code presses is the first place it stands at;
* `Keypad.Event`, `Keypad.afterEvents`: what can happen to a keypad that stands alone;
* `lastMove`: whether a key should be held, read off the events alone;
* `isHeld_press`, `isHeld_heed`: what one event does to a key;
* `isHeld_afterEvents`: so every key is where it should be, after any events;
* `keypad_replay`: all of it, with what the first key held, the text and the keymap say.
-/
import Chip8.Proofs.KeyWait
import Chip8.Proofs.Recent
import Chip8.Proofs.Rekeyed

namespace Chip8

set_option autoImplicit false

theorem keySlot_ofNat (j : Fin 16) : keySlot (UInt8.ofNat j) = j := by
  have small := j.isLt
  refine Fin.ext ?_
  show (UInt8.ofNat j).toNat % 16 = j
  rw [UInt8.toNat_ofNat']
  omega

/-! ## The first place of a code -/

namespace Keymap

/-- The code stands at this place of the table, and at none before it. -/
structure IsFirst (k : Keymap) (code : UInt32) (j : Fin 16) : Prop where
  here : Table.get k.codes j = code
  first : ∀ i < j, Table.get k.codes i ≠ code

instance (k : Keymap) (code : UInt32) (j : Fin 16) : Decidable (k.IsFirst code j) :=
  decidable_of_iff (Table.get k.codes j = code ∧ ∀ i < j, Table.get k.codes i ≠ code)
    ⟨fun ⟨here, first⟩ => ⟨here, first⟩, fun ⟨here, first⟩ => ⟨here, first⟩⟩

variable {k : Keymap} {code : UInt32}

theorem IsFirst.unique {i j : Fin 16} (one : k.IsFirst code i) (other : k.IsFirst code j) :
    i = j := by
  rcases Nat.lt_trichotomy i j with before | same | after
  · exact absurd one.here (other.first i before)
  · exact Fin.ext same
  · exact absurd other.here (one.first j after)

/-- **The key a code presses is the first place it stands at.** -/
theorem key?_eq_some_iff (key : UInt8) :
    k.key? code = some key ↔ ∃ j : Fin 16, k.IsFirst code j ∧ key = UInt8.ofNat j := by
  rw [key?, Option.map_eq_some_iff]
  constructor
  · rintro ⟨i, found, rfl⟩
    obtain ⟨inside, here, first⟩ := List.findIdx?_eq_some_iff_getElem.1 found
    have small : i < 16 := by simpa using inside
    refine ⟨⟨i, small⟩, ⟨?_, ?_⟩, rfl⟩
    · simpa [Table.get] using here
    · intro j before
      simpa [Table.get] using first j before
  · rintro ⟨j, ⟨here, first⟩, rfl⟩
    refine ⟨j, List.findIdx?_eq_some_iff_getElem.2 ⟨by simp, ?_, ?_⟩, rfl⟩
    · simpa [Table.get] using here
    · intro i before
      simpa [Table.get] using first ⟨i, before.trans j.isLt⟩ before

theorem not_isFirst_of_none (unbound : k.key? code = none) (j : Fin 16) : ¬ k.IsFirst code j := by
  intro first
  have bound := (key?_eq_some_iff (UInt8.ofNat j)).2 ⟨j, first, rfl⟩
  rw [unbound] at bound
  cases bound

theorem code_ofNat (k : Keymap) (j : Fin 16) : k.code (UInt8.ofNat j) = Table.get k.codes j := by
  rw [Keymap.code, keySlot_ofNat]

theorem code_of_key? {key : UInt8} (bound : k.key? code = some key) : k.code key = code := by
  obtain ⟨j, first, rfl⟩ := (key?_eq_some_iff key).1 bound
  rw [code_ofNat, first.here]

/-- A code that stands somewhere stands somewhere first. -/
theorem exists_isFirst (key : UInt8) :
    ∃ j : Fin 16, k.key? (k.code key) = some (UInt8.ofNat j) ∧ k.IsFirst (k.code key) j := by
  cases bound : k.key? (k.code key) with
  | none =>
      have absent := (key?_eq_none_iff k _).1 bound
      have present : k.code key ∈ k.codes := by simp [Keymap.code, Table.get]
      exact absurd present absent
  | some pressed =>
      obtain ⟨j, first, rfl⟩ := (key?_eq_some_iff pressed).1 bound
      exact ⟨j, rfl, first⟩

end Keymap

namespace Keypad

/-! ## Events -/

inductive Event
  /-- A device key with this code went down or up. -/
  | press (code : UInt32) (down : Bool)
  | set (key : UInt8) (down : Bool)
  | clear
  deriving DecidableEq, Repr

def heed (pad : Keypad) (keymap : Keymap) : Event → Keypad
  | .press code down => pad.press keymap code down
  | .set key down => pad.set key down
  | .clear => .released

/-- The keypad after a list of events. -/
def afterEvents (pad : Keypad) (keymap : Keymap) (events : List Event) : Keypad :=
  events.foldl (fun pad e => pad.heed keymap e) pad

def Event.clears (e : Event) : Bool := e == clear

/-- Where an event moves a key, if it is the key's event. -/
def Event.moves? (keymap : Keymap) (j : Fin 16) : Event → Option Bool
  | press code down => if keymap.IsFirst code j then some down else none
  | set key down => if key.toNat % 16 = j then some down else none
  | clear => none

/-- Whether a key should be held: as its last event since the last clear has it, and not held if
there was none. -/
def lastMove (keymap : Keymap) (j : Fin 16) (events : List Event) : Bool :=
  (latest (Event.moves? keymap j) (since Event.clears events)).getD false

theorem lastMove_concat (keymap : Keymap) (j : Fin 16) (events : List Event) (e : Event) :
    lastMove keymap j (events ++ [e]) =
      if e.clears then false else (e.moves? keymap j).getD (lastMove keymap j events) := by
  unfold lastMove
  rw [since_concat]
  by_cases clear : e.clears = true
  · rw [if_pos clear, if_pos clear]
    rfl
  · rw [if_neg clear, if_neg clear, latest_concat]
    cases e.moves? keymap j with
    | none => rfl
    | some down => rfl

/-! ## One event -/

variable {pad : Keypad} {keymap : Keymap}

/-- **A device event moves the key at the first place of its code**, and no other. -/
theorem isHeld_press (code : UInt32) (down : Bool) (key : UInt8) :
    (pad.press keymap code down).isHeld key =
      if keymap.IsFirst code (keySlot key) then down else pad.isHeld key := by
  unfold press
  cases bound : keymap.key? code with
  | none => rw [if_neg (Keymap.not_isFirst_of_none bound _)]
  | some pressed =>
      obtain ⟨j, first, rfl⟩ := (Keymap.key?_eq_some_iff pressed).1 bound
      show (pad.set (UInt8.ofNat j) down).isHeld key = _
      rw [isHeld_set, keySlot_ofNat]
      by_cases here : j = keySlot key
      · rw [if_pos here, if_pos (here ▸ first)]
      · have other : ¬ keymap.IsFirst code (keySlot key) := by
          intro second
          exact here (first.unique second)
        rw [if_neg here, if_neg other]

theorem isHeld_heed (e : Event) (key : UInt8) :
    (pad.heed keymap e).isHeld key =
      if e.clears then false else (e.moves? keymap (keySlot key)).getD (pad.isHeld key) := by
  cases e with
  | press code down =>
      show (pad.press keymap code down).isHeld key = (ite _ _ _ : Option Bool).getD _
      rw [isHeld_press]
      split
      · rfl
      · rfl
  | set moved down =>
      show (pad.set moved down).isHeld key = (ite _ _ _ : Option Bool).getD _
      rw [isHeld_set]
      by_cases here : keySlot moved = keySlot key
      · have number : moved.toNat % 16 = keySlot key := congrArg Fin.val here
        rw [if_pos here, if_pos number]
        rfl
      · have apart : ¬ moved.toNat % 16 = keySlot key := by
          intro same
          exact here (Fin.ext same)
        rw [if_neg here, if_neg apart]
        rfl
  | clear => exact isHeld_released key

/-- A key behind the first place of its code is never moved by a device event. -/
theorem isHeld_press_of_shadowed {key : UInt8} {i : Fin 16} (before : i < keySlot key)
    (same : Table.get keymap.codes i = keymap.code key) (code : UInt32) (down : Bool) :
    (pad.press keymap code down).isHeld key = pad.isHeld key := by
  rw [isHeld_press]
  apply if_neg
  intro first
  exact first.first i before (same.trans first.here)

/-! ## Any events -/

theorem afterEvents_concat (events : List Event) (e : Event) :
    pad.afterEvents keymap (events ++ [e]) = (pad.afterEvents keymap events).heed keymap e := by
  rw [afterEvents, List.foldl_append]
  rfl

/-- **Every key is where it should be**, whatever happened to a released keypad. -/
theorem isHeld_afterEvents (keymap : Keymap) (events : List Event) (key : UInt8) :
    (released.afterEvents keymap events).isHeld key = lastMove keymap (keySlot key) events := by
  induction events using List.reverseRecOn with
  | nil => exact isHeld_released key
  | append_singleton events e ih => rw [afterEvents_concat, isHeld_heed, lastMove_concat, ih]

/-! ## The text -/

theorem length_text (pad : Keypad) : pad.text.length = 16 := by
  simp [text]

theorem getElem?_text (pad : Keypad) {key : UInt8} (low : key < 16) :
    pad.text.toList[key.toNat]? = some (if pad.isHeld key then 'o' else ' ') := by
  have inside : key.toNat < pad.held.toList.length := by
    simpa using UInt8.lt_iff_toNat_lt.1 low
  have view := pad.isHeld_ofNat inside
  rw [UInt8.ofNat_toNat] at view
  rw [text, String.toList_ofList, List.getElem?_map, List.getElem?_eq_getElem inside, view]
  rfl

/-- **A keypad is the replay of its events**, whatever the keymap.  After any events on a released
keypad, a key is held as the last event since the last clear that meant it has it.  A number means
its key modulo 16, and a device code the first place of the keymap that holds it.  The first key
held is the least one, and the text marks the keys that are held and no others.  The key a code
presses has that code; the code of a key presses the first key that shares it; and a key behind
that one is never moved by a device event. -/
theorem keypad_replay (keymap : Keymap) (events : List Event) :
    let pad := released.afterEvents keymap events
    (∀ key, pad.isHeld key = lastMove keymap (keySlot key) events) ∧
      (∀ key, pad.first? = some key ↔ pad.IsLeast key) ∧
      (pad.first? = none ↔ pad.NoneHeld) ∧
      pad.text.length = 16 ∧
      (∀ key < 16, pad.text.toList[key.toNat]? = some (if pad.isHeld key then 'o' else ' ')) ∧
      (∀ code key, keymap.key? code = some key → keymap.code key = code) ∧
      (∀ key, ∃ j : Fin 16, keymap.key? (keymap.code key) = some (UInt8.ofNat j) ∧
        keymap.IsFirst (keymap.code key) j) ∧
      ∀ key, (∃ i < keySlot key, Table.get keymap.codes i = keymap.code key) →
        ∀ (any : Keypad) code down, (any.press keymap code down).isHeld key = any.isHeld key := by
  intro pad
  refine ⟨isHeld_afterEvents keymap events, pad.first?_eq_some_iff, pad.first?_eq_none_iff,
    pad.length_text, fun key => pad.getElem?_text, fun code key => Keymap.code_of_key?,
    Keymap.exists_isFirst, ?_⟩
  rintro key ⟨i, before, same⟩ any code down
  exact isHeld_press_of_shadowed before same code down

/-- Where every place holds one code, only the first key ever hears it. -/
example :
    let keymap : Keymap := ⟨Vector.replicate 16 120⟩
    lastMove keymap (slotOf 0) [.press 120 true, .set 255 true] = true ∧
      lastMove keymap (slotOf 1) [.press 120 true, .set 255 true] = false ∧
      lastMove keymap (slotOf 15) [.press 120 true, .set 255 true] = true := by decide

end Keypad

end Chip8
