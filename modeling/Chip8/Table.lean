/-
# Chip8.Table — a fixed number of entries, reached by positions that exist

Registers, keys, codes and cells are vectors.  `Table.get` is the view of one; `ext_get` says
that it shows everything, and the other lemmas say what it shows of a vector built or changed.
-/

namespace Chip8.Table

set_option autoImplicit false

variable {α : Type} {n : Nat}

def get (t : Vector α n) (i : Fin n) : α := t[i.val]

def set (t : Vector α n) (i : Fin n) (a : α) : Vector α n := t.set i.val a

@[simp] theorem get_set (t : Vector α n) (i : Fin n) (a : α) (j : Fin n) :
    get (set t i a) j = if i = j then a else get t j := by
  simp [get, set, Vector.getElem_set, Fin.ext_iff]

@[simp] theorem get_replicate (a : α) (i : Fin n) : get (Vector.replicate n a) i = a := by
  simp [get]

@[simp] theorem get_ofFn (f : Fin n → α) (i : Fin n) : get (Vector.ofFn f) i = f i := by
  simp [get]

theorem ext_get {t u : Vector α n} (h : ∀ i, get t i = get u i) : t = u :=
  Vector.ext fun i inside => h ⟨i, inside⟩

/-- Entries at different positions, or the same entry, may be set in either order. -/
theorem set_comm (t : Vector α n) {i j : Fin n} {a b : α} (apart : i = j → a = b) :
    set (set t i a) j b = set (set t j b) i a := by
  refine ext_get fun k => ?_
  simp only [get_set]
  by_cases first : i = k
  · by_cases second : j = k
    · simp [first, second, apart (first.trans second.symm)]
    · simp [first, second]
  · simp [first]

end Chip8.Table
