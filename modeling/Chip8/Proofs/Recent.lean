/-
# Chip8.Proofs.Recent -- what counts of a list of events

Where one event undoes all before it, only those after the last such event count; and where
several give a value, only the last of them does.  Events are listed oldest first, and a run grows
at the end of its list.

* `since ends events`: the events after the last that `ends` picks out;
* `latest value? events`: the value that the last event with a value gives;
* `since_concat`, `latest_concat`: one event more;
* `latest_eq_none_iff`, `exists_of_latest`: where the latest value comes from.
-/
import Mathlib.Data.List.DropRight

namespace Chip8

set_option autoImplicit false

variable {ε α : Type}

/-- The events after the last one that `ends` picks out; all of them if it picks out none. -/
def since (ends : ε → Bool) (events : List ε) : List ε := events.rtakeWhile fun e => !ends e

/-- The value of the last event that has one. -/
def latest (value? : ε → Option α) (events : List ε) : Option α :=
  (events.filterMap value?).getLast?

theorem since_concat (ends : ε → Bool) (events : List ε) (e : ε) :
    since ends (events ++ [e]) = if ends e then [] else since ends events ++ [e] := by
  unfold since
  rw [List.rtakeWhile_concat]
  cases ends e with
  | true => rfl
  | false => rfl

theorem latest_append (value? : ε → Option α) (earlier later : List ε) :
    latest value? (earlier ++ later) = (latest value? later).or (latest value? earlier) := by
  unfold latest
  rw [List.filterMap_append, List.getLast?_append]

theorem latest_singleton (value? : ε → Option α) (e : ε) : latest value? [e] = value? e := by
  unfold latest
  cases found : value? e <;> simp [found]

theorem latest_concat (value? : ε → Option α) (events : List ε) (e : ε) :
    latest value? (events ++ [e]) = (value? e).or (latest value? events) := by
  rw [latest_append, latest_singleton]

theorem latest_cons (value? : ε → Option α) (e : ε) (events : List ε) :
    latest value? (e :: events) = (latest value? events).or (value? e) := by
  rw [← List.singleton_append, latest_append, latest_singleton]

/-- There is no latest value exactly if no event has one. -/
theorem latest_eq_none_iff {value? : ε → Option α} {events : List ε} :
    latest value? events = none ↔ ∀ e ∈ events, value? e = none := by
  rw [latest, List.getLast?_eq_none_iff, List.filterMap_eq_nil_iff]

/-- The latest value is some event's. -/
theorem exists_of_latest {value? : ε → Option α} {events : List ε} {a : α}
    (last : latest value? events = some a) : ∃ e ∈ events, value? e = some a :=
  List.mem_filterMap.1 (List.mem_of_getLast? last)

end Chip8
