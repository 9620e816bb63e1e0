/-
# Chip8.Proofs.CallDiscipline -- a return goes back to the call it matches

The call stack is sixteen slots and a depth.  Over a run it is a list: what is live in it
is what the calls pushed and the returns have not taken off again.

* `Transfer` is a call or a return that succeeded, `transfers` lists those of a history and
  `unmatched` the return addresses of the calls in it that no return has matched;
* `stack_shape`: one call of the host keeps the live stack, adds one address to it, or
  takes the last one off and makes it the counter;
* `leaves_live`: the live stack after any run, from its history;
* `return_matches`: after a call, the first return that brings the depth back goes to the
  instruction after that call and finds the older part of the stack as the call left it.
-/
import Chip8.Proofs.Recent
import Chip8.Proofs.WellFormed

namespace Chip8

set_option autoImplicit false

/-! ## The live part of a stack -/

namespace CallStack

variable {s : CallStack}

theorem length_live (fits : s.depth ≤ 16) : s.live.length = s.depth := by
  simp [live, fits]

theorem live_pushed (room : s.depth < 16) (next : UInt16) :
    (s.pushed next).live = s.live ++ [next] := by
  have inside : s.depth < (s.slots.toList.set s.depth next).length := by simpa using room
  have kept : (s.slots.toList.take s.depth).set s.depth next = s.slots.toList.take s.depth :=
    List.set_eq_of_length_le (List.length_take_le _ _)
  simp only [live, pushed, Table.set, val_slotOf, Nat.mod_eq_of_lt room, Vector.toList_set]
  rw [List.take_succ_eq_append_getElem inside, List.take_set, kept, List.getElem_set_self]

theorem live_popped (fits : s.depth ≤ 16) (nonempty : s.depth ≠ 0) :
    s.live = s.popped.live ++ [s.top] := by
  obtain ⟨slots, depth⟩ := s
  obtain ⟨d, rfl⟩ := Nat.exists_eq_succ_of_ne_zero nonempty
  have inside : d < 16 := Nat.lt_of_succ_le fits
  have bound : d < slots.toList.length := by simpa using inside
  simp only [live, popped, top, Nat.succ_eq_add_one, Nat.add_sub_cancel]
  rw [List.take_succ_eq_append_getElem bound]
  simp [Table.get, Nat.mod_eq_of_lt inside]

/-- Live slots are entries of the live list. -/
theorem getElem?_live (i : Fin 16) (inside : i.val < s.depth) :
    s.live[i.val]? = some (Table.get s.slots i) := by
  simp [live, List.getElem?_take_of_lt inside, Table.get]

end CallStack

/-! ## Transfers -/

/-- A call that succeeded, with the address it will return to, or a return that did. -/
inductive Transfer
  | call (next : UInt16)
  | ret
  deriving DecidableEq, Repr

namespace Transfer

def isCall : Transfer → Bool
  | call _ => true
  | ret => false

/-- The transfer an instruction makes if it succeeds; `next` is the address after it. -/
def of? (next : UInt16) : Instruction → Option Transfer
  | .call _ => some (call next)
  | .ret => some ret
  | _ => none

/-- The calls still open after one more transfer: a return matches the latest. -/
def settle (opened : List UInt16) : Transfer → List UInt16
  | call next => opened ++ [next]
  | ret => opened.dropLast

/-- The return addresses of the calls that no return has matched, oldest first. -/
def unmatched (transfers : List Transfer) : List UInt16 := transfers.foldl settle []

theorem unmatched_concat (transfers : List Transfer) (t : Transfer) :
    unmatched (transfers ++ [t]) = settle (unmatched transfers) t := by
  simp [unmatched]

/-- Transfers of which every return finds a call to match, with the addresses still open
after them. -/
inductive Leaves : List Transfer → List UInt16 → Prop
  | nil : Leaves [] []
  | call {transfers : List Transfer} {opened : List UInt16} (before : Leaves transfers opened)
      (next : UInt16) : Leaves (transfers ++ [call next]) (opened ++ [next])
  | ret {transfers : List Transfer} {opened : List UInt16} {next : UInt16}
      (before : Leaves transfers (opened ++ [next])) : Leaves (transfers ++ [ret]) opened

namespace Leaves

variable {transfers : List Transfer} {opened : List UInt16}

theorem unmatched_eq (leaves : Leaves transfers opened) : unmatched transfers = opened := by
  induction leaves with
  | nil => rfl
  | call before next ih => rw [unmatched_concat, ih, settle]
  | ret before ih => rw [unmatched_concat, ih, settle, List.dropLast_concat]

/-- As many are open as there are calls more than returns. -/
theorem length_add_returns (leaves : Leaves transfers opened) :
    opened.length + transfers.countP (· == .ret) = transfers.countP isCall := by
  induction leaves with
  | nil => rfl
  | call before next ih =>
      rw [List.countP_append, List.countP_append, ← ih, List.length_append]
      show _ + 1 + (_ + 0) = _ + _ + 1
      omega
  | ret before ih =>
      rw [List.countP_append, List.countP_append, ← ih, List.length_append]
      show _ + (_ + 1) = _ + 1 + _ + 0
      omega

end Leaves

end Transfer

namespace Moment

/-- The transfer that took place: the moment was a step, at a call or a return, and it
succeeded. -/
def transfer? (k : Moment) : Option Transfer :=
  match k.call, k.machine.step.result with
  | .step, .ok () => Transfer.of? ((k.machine.pc + 2) % 4096) k.machine.next
  | _, _ => none

/-- The moment was a return that left the stack at depth `d`. -/
def ReturnsTo (k : Moment) (d : Nat) : Prop :=
  k.transfer? = some .ret ∧ k.after.stack.depth = d

end Moment

def transfers (past : List Moment) : List Transfer := past.filterMap Moment.transfer?

/-- The moments after the last reset. -/
def sinceReset (past : List Moment) : List Moment := since (·.call == .reset) past

theorem sinceReset_concat (past : List Moment) (k : Moment) :
    sinceReset (past ++ [k]) = if k.call = .reset then [] else sinceReset past ++ [k] := by
  simp only [sinceReset, since_concat, beq_iff_eq]

theorem transfers_concat (past : List Moment) (k : Moment) :
    transfers (past ++ [k]) = transfers past ++ k.transfer?.toList := by
  unfold transfers
  cases happened : k.transfer? <;> simp [List.filterMap_append, happened]

/-! ## One moment -/

namespace Machine

variable {m : Machine}

theorem WellFormed.length_live (wf : m.WellFormed) : m.stack.live.length = m.stack.depth :=
  CallStack.length_live wf.stack.depth_le

theorem transfer?_of_refusal {fault : Fault} (wf : m.WellFormed)
    (refused : m.passed.refusal m.next = some fault) : Moment.transfer? ⟨m, .step⟩ = none := by
  simp only [Moment.transfer?, step_of_refusal wf.stack.depth_le refused]

theorem transfer?_of_runs (wf : m.WellFormed) (runs : m.passed.refusal m.next = none) :
    Moment.transfer? ⟨m, .step⟩ = Transfer.of? ((m.pc + 2) % 4096) m.next := by
  simp only [Moment.transfer?, step_of_runs wf.stack.depth_le runs]

theorem runs_of_call {a : UInt16} (spelled : m.next = .call a) (room : m.stack.depth < 16) :
    m.passed.refusal m.next = none := by
  rw [spelled]
  exact if_pos room

theorem transfer?_of_call {a : UInt16} (wf : m.WellFormed) (spelled : m.next = .call a)
    (room : m.stack.depth < 16) :
    Moment.transfer? ⟨m, .step⟩ = some (.call ((m.pc + 2) % 4096)) := by
  rw [transfer?_of_runs wf (runs_of_call spelled room), spelled]
  rfl

theorem step_stack_shape (wf : m.WellFormed) :
    match Moment.transfer? ⟨m, .step⟩ with
    | none => m.step.machine.stack = m.stack
    | some (.call next) => m.step.machine.stack.live = m.stack.live ++ [next]
    | some .ret => m.stack.live = m.step.machine.stack.live ++ [m.step.machine.pc] := by
  have fits := wf.stack.depth_le
  cases refused : m.passed.refusal m.next with
  | some fault =>
      rw [transfer?_of_refusal wf refused, step_of_refusal fits refused]
  | none =>
      rw [transfer?_of_runs wf refused, step_of_runs fits refused]
      cases spelled : m.next with
      | call a =>
          rw [spelled] at refused
          show (m.stack.pushed ((m.here + 2) % 4096)).live = m.stack.live ++ [(m.pc + 2) % 4096]
          rw [wf.here_eq]
          exact CallStack.live_pushed (depth_lt_of_call refused) _
      | ret =>
          rw [spelled] at refused
          exact CallStack.live_popped (s := m.passed.stack) fits (depth_ne_zero_of_ret refused)
      | _ =>
          rw [effect_stack]
          rfl

/-- **What one moment does to the stack.**  Unless it is a reset, it keeps the stack, adds
the address of its call to the live part, or takes the last one off into the counter. -/
theorem stack_shape (wf : m.WellFormed) {op : Operation} (atom : op.IsAtom)
    (kept : op ≠ .reset) :
    match Moment.transfer? ⟨m, op⟩ with
    | none => (m.perform op).machine.stack = m.stack
    | some (.call next) => (m.perform op).machine.stack.live = m.stack.live ++ [next]
    | some .ret => m.stack.live =
        (m.perform op).machine.stack.live ++ [(m.perform op).machine.pc] := by
  cases op with
  | step => exact step_stack_shape wf
  | frame n => exact atom.elim
  | tick | listen | press _ _ => rfl
  | reset => exact absurd rfl kept
  | load rom => exact m.load_stack rom
  | loadFile path content =>
      cases content with
      | none => rfl
      | some rom => exact m.load_stack rom

end Machine

/-! ## Runs -/

namespace Trail

variable {m k : Machine} {past : List Moment}

/-- The live stack after a run that started with an empty one is what its transfers since
the last reset leave open. -/
theorem leaves_live (trail : Trail m past k) (wf : m.WellFormed) (empty : m.stack.live = []) :
    Transfer.Leaves (transfers (sinceReset past)) k.stack.live := by
  induction trail with
  | nil =>
      rw [empty]
      exact .nil
  | @snoc past k before op atom ih =>
      rw [sinceReset_concat]
      by_cases reset : op = .reset
      · subst reset
        exact .nil
      · have shape := Machine.stack_shape (before.wellFormed wf) atom reset
        rw [if_neg reset, transfers_concat]
        cases happened : Moment.transfer? ⟨k, op⟩ with
        | none =>
            simp only [happened] at shape
            rw [shape, Option.toList_none, List.append_nil]
            exact ih
        | some t =>
            cases t with
            | call next =>
                simp only [happened] at shape
                rw [shape]
                exact ih.call next
            | ret =>
                simp only [happened] at shape
                rw [shape] at ih
                exact ih.ret

/-- Until a return brings the depth back to where it was before a call, the address of that
call stays where the call put it, above all that was live before. -/
theorem prefix_kept {older : List UInt16} {next : UInt16} (trail : Trail m past k)
    (wf : m.WellFormed) (called : older ++ [next] <+: m.stack.live)
    (quiet : ∀ j ∈ past, j.call ≠ .reset ∧ ¬ j.ReturnsTo older.length) :
    older ++ [next] <+: k.stack.live := by
  induction trail with
  | nil => exact called
  | @snoc past k before op atom ih =>
      have wfk := before.wellFormed wf
      have there := ih fun j member => quiet j (List.mem_append_left _ member)
      obtain ⟨kept, away⟩ := quiet ⟨k, op⟩ (by simp)
      have shape := Machine.stack_shape wfk atom kept
      cases happened : Moment.transfer? ⟨k, op⟩ with
      | none =>
          simp only [happened] at shape
          rwa [shape]
      | some t =>
          cases t with
          | call further =>
              simp only [happened] at shape
              rw [shape]
              exact there.trans (List.prefix_append _ _)
          | ret =>
              simp only [happened] at shape
              rw [shape, List.prefix_concat_iff] at there
              rcases there with all | inside
              · -- The address that came off is the call's own, so this is the return.
                have same := (List.append_inj' all rfl).1
                have back := (Machine.atom_wellFormed wfk atom).length_live
                exact absurd ⟨happened, by rw [same, back]; rfl⟩ away
              · exact inside

/-- **A return goes back to the call it matches.**  From a call at `m` to the first return
that brings the depth back to what it was: that return goes to the address after the call,
and every slot that was live before the call holds what it held. -/
theorem return_matches {a : UInt16} (wf : m.WellFormed) (spelled : m.next = .call a)
    (room : m.stack.depth < 16) (trail : Trail m.step.machine past k) {op : Operation}
    (atom : op.IsAtom) (back : Moment.ReturnsTo ⟨k, op⟩ m.stack.depth)
    (quiet : ∀ j ∈ past, j.call ≠ .reset ∧ ¬ j.ReturnsTo m.stack.depth) :
    (k.perform op).machine.pc = (m.pc + 2) % 4096 ∧
      (k.perform op).machine.stack.live = m.stack.live := by
  have called : m.step.machine.stack.live = m.stack.live ++ [(m.pc + 2) % 4096] := by
    have shape := Machine.step_stack_shape wf
    simpa only [Machine.transfer?_of_call wf spelled room] using shape
  have wfk := trail.wellFormed (Machine.step_wellFormed wf)
  have there : m.stack.live ++ [(m.pc + 2) % 4096] <+: k.stack.live :=
    trail.prefix_kept (Machine.step_wellFormed wf) (called ▸ List.prefix_rfl)
      (by rw [wf.length_live]; exact quiet)
  obtain ⟨happened, depth⟩ := back
  have kept : op ≠ .reset := by
    rintro rfl
    cases happened
  have shape := Machine.stack_shape wfk atom kept
  simp only [happened] at shape
  have wfn := Machine.atom_wellFormed wfk atom
  -- Both lists have the length of the call's depth, so the prefix is the whole list.
  have full : m.stack.live ++ [(m.pc + 2) % 4096] = k.stack.live := by
    refine there.eq_of_length ?_
    rw [shape, List.length_append, List.length_append, wf.length_live, wfn.length_live]
    simpa [Moment.after] using depth.symm
  obtain ⟨same, last⟩ := List.append_inj' (full.trans shape) rfl
  exact ⟨(List.singleton_inj.1 last).symm, same.symm⟩

end Trail

namespace Machine

theorem boot_stack (config : Config) (drawn : UInt64) (rom : Option (List UInt8)) :
    (boot config drawn rom).machine.stack = .empty := by
  cases rom with
  | none => rfl
  | some rom => exact (start config drawn).load_stack rom

/-- **Calls and returns over whole runs.**  After any calls of a host, the live stack is
the list of return addresses of the calls since the last reset that no return has matched,
and its depth counts the one less the other.  A call that finds room succeeds; in whatever
happens after it, the first return that brings the depth back, if no reset comes before,
goes to the address after the call and finds the slots below as the call left them. -/
theorem calls_and_returns (config : Config) (drawn : UInt64) (rom : Option (List UInt8))
    (ops : List Operation) :
    let start := (boot config drawn rom).machine
    let m := start.after ops
    let happened := transfers (sinceReset (start.history ops))
    m.stack.live = Transfer.unmatched happened ∧
      m.stack.live.length = m.stack.depth ∧
      m.stack.depth + happened.countP (· == .ret) = happened.countP Transfer.isCall ∧
      m.stack.depth ≤ 16 ∧
      ∀ a, m.next = .call a → m.stack.depth < 16 →
        m.step.result = .ok () ∧
          ∀ later before k rest, m.step.machine.history later = before ++ k :: rest →
            (∀ j ∈ before, j.call ≠ .reset ∧ ¬ j.ReturnsTo m.stack.depth) →
            k.ReturnsTo m.stack.depth →
            k.after.pc = (m.pc + 2) % 4096 ∧
              ∀ i : Fin 16, i.val < m.stack.depth →
                Table.get k.after.stack.slots i = Table.get m.stack.slots i := by
  intro start m happened
  have trail : Trail start (start.history ops) m := start.trail_history ops
  have wfs : start.WellFormed := boot_wellFormed config drawn rom
  have wf : m.WellFormed := trail.wellFormed wfs
  have empty : start.stack.live = [] := by
    rw [boot_stack]
    exact CallStack.live_empty
  have leaves : Transfer.Leaves happened m.stack.live := trail.leaves_live wfs empty
  have length : m.stack.live.length = m.stack.depth := wf.length_live
  refine ⟨leaves.unmatched_eq.symm, length, length ▸ leaves.length_add_returns,
    wf.stack.depth_le, ?_⟩
  intro a spelled room
  refine ⟨by rw [step_of_runs wf.stack.depth_le (runs_of_call spelled room)], ?_⟩
  intro later before k rest whole quiet back
  have further := m.step.machine.trail_history later
  rw [whole] at further
  obtain ⟨reached, atom⟩ := further.upTo
  obtain ⟨pc, live⟩ := reached.return_matches wf spelled room atom back quiet
  refine ⟨pc, fun i inside => ?_⟩
  have here := CallStack.getElem?_live (s := m.stack) i inside
  have there := CallStack.getElem?_live (s := k.after.stack) i (by rw [back.2]; exact inside)
  rw [Moment.after, live, here] at there
  exact (Option.some.inj there).symm

/-- A call to the next instruction but one, and a return there. -/
def callAndReturn : Machine := (boot {} 0 (some [0x22, 0x04, 0x12, 0x00, 0x00, 0xEE])).machine

/-- A frame of two steps holds the call and the return that matches it. -/
example : transfers (callAndReturn.history [.frame 2]) = [.call 0x202, .ret] := by
  decide +kernel

end Machine

end Chip8
