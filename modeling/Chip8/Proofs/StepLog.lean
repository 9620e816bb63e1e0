/-
# Chip8.Proofs.StepLog -- what the reports of a run tell

A step reports what it fetched, then an opcode without a meaning, or that it waits for a key.  The
address is worked out in three places: masked from the counter before the step, masked again from
the moved counter two back, and for a fault from the counter two on.  On a machine a host can come
to they agree, also around the end of memory, and the opcode reported is the one that stood there
before the step wrote anything.  So the lines of a run say which steps were made.

* `Machine.dueRecords`, `Machine.dueLines`: what a step should report, read off the machine before
  it; `stepLog_eq`, `visible_dueRecords`: it does, and so it is worded;
* `StepReported`: all that is promised of one step; `stepReported`: it is kept;
* `log_history`: the reports of a run are those of its single calls;
* `readFetch?`: what was fetched, read off a line; `readFetch?_line`: it takes no other line for
  one;
* `step_reports`: all of it, over any run.
-/
import Mathlib.Data.List.Basic
import Chip8.Proofs.Batching
import Chip8.Proofs.Counter
import Chip8.Proofs.HexReading
import Chip8.Proofs.KeypadReplay
import Chip8.Proofs.Options

namespace Chip8

set_option autoImplicit false

/-! ## One step -/

/-- No known opcode. -/
def Instruction.isUnknown : Instruction → Bool
  | unknown _ => true
  | _ => false

theorem isWait_decode_iff (word : UInt16) :
    (decode word).isWait ↔ word / 4096 = 0xF ∧ word % 256 = 0x0A := by
  have nibble : (Fields.of word).kind = 0xF ↔ word / 4096 = 0xF := Fields.kind_eq_iff word 0xF
  have byte : (Fields.of word).kk = 0x0A ↔ word % 256 = 0x0A := Fields.kk_eq_iff word 0x0A
  rw [← nibble, ← byte]
  constructor
  · intro waits
    cases spelled : decode word with
    | waitKey x =>
        obtain ⟨kind, low, -⟩ := Instruction.decode_eq_iff.1 spelled
        exact ⟨kind, low⟩
    | _ =>
        rw [spelled] at waits
        cases waits
  · rintro ⟨kind, low⟩
    have spelled : decode word = .waitKey (Fields.of word).x :=
      Instruction.decode_eq_iff.2 ⟨kind, low, rfl⟩
    rw [spelled]
    rfl

theorem Keypad.eq_released_of_noneHeld {k : Keypad} (none : k.NoneHeld) : k = .released := by
  obtain ⟨held⟩ := k
  refine congrArg Keypad.mk (Table.ext_get fun i => ?_)
  have view := none (UInt8.ofNat i)
  rw [isHeld, keySlot_ofNat] at view
  rw [view, Table.get_replicate]

theorem Keypad.text_of_noneHeld {k : Keypad} (none : k.NoneHeld) :
    k.text = String.ofList (List.replicate 16 ' ') := by
  rw [eq_released_of_noneHeld none, text, released]
  simp

namespace Log

/-- Whoever reads at the last level sees everything. -/
theorem visible_trace (records : List Record) :
    visible .trace records = records.map Record.line := by
  have every : ∀ r ∈ records, decide (r.level.rank ≤ Level.trace.rank) = true := by
    intro r _
    cases r <;> rfl
  rw [visible, List.filter_eq_self.2 every]

theorem Record.line_of_trace {r : Record} (seen : r.level = .trace) :
    r.line = "TRACE " ++ r.message := by
  rw [line, seen]
  rfl

theorem Record.line_of_warn {r : Record} (seen : r.level = .warn) :
    r.line = "WARN " ++ r.message := by
  rw [line, seen]
  rfl

end Log

namespace Machine

variable {m : Machine}

/-- The opcode at the counter is `Fx0A`, and the machine is one that blocks and finds no key. -/
def AwaitsKey (m : Machine) : Prop :=
  let word := m.memory.word m.pc.toNat
  word / 4096 = 0xF ∧ word % 256 = 0x0A ∧ m.config.keyWait = .block ∧ m.keypad.NoneHeld

instance (m : Machine) : Decidable m.AwaitsKey :=
  inferInstanceAs (Decidable (_ ∧ _ ∧ _ ∧ _))

/-- What a step should report: the opcode at the counter, then that it is unknown, then that the
machine waits. -/
def dueRecords (m : Machine) : List Log.Record :=
  let word := m.memory.word m.pc.toNat
  .fetched m.pc word (decode word) ::
    ((if (decode word).isUnknown then [.unknown word m.pc] else []) ++
      if m.AwaitsKey then [.waiting m.keypad] else [])

/-- The same as a reader sees it. -/
def dueLines (m : Machine) : List String :=
  let word := m.memory.word m.pc.toNat
  let counter := Hex.address m.pc
  ("TRACE " ++ (counter ++ ": " ++ Hex.opcode word ++ " " ++ (decode word).text)) ::
    ((if (decode word).isUnknown then
        ["WARN " ++ ("Unknown instruction " ++ Hex.opcode word ++ " at " ++ counter)] else []) ++
      if m.AwaitsKey then
        ["TRACE " ++ ("Waiting for key [" ++ String.ofList (List.replicate 16 ' ') ++ "]")] else [])

/-- An unknown opcode is reported as it stood in memory. -/
theorem word_of_unknown {word told : UInt16} (spelled : decode word = .unknown told) :
    told = word :=
  (Instruction.decode_eq_iff.1 spelled).1

/-- **A step reports what it should**, whether it fails or not. -/
theorem stepLog_eq (wf : m.WellFormed) : m.stepLog = m.dueRecords := by
  have counter : (m.passed.pc - 2) % 4096 = m.pc := by
    rw [passed, wf.here_eq]
    exact rewind wf.pc_lt
  have waits : m.AwaitsKey ↔
      (decode (m.memory.word m.pc.toNat)).isWait ∧ m.config.keyWait = .block ∧
        m.keypad.NoneHeld := by
    rw [isWait_decode_iff, and_assoc]
    exact Iff.rfl
  rw [stepLog, dueRecords, next, m.fetch_eq, wf.here_eq]
  refine congrArg (List.cons _) ?_
  simp only [waits]
  -- Two instructions have something further to report, and the second only if no key is held.
  cases spelled : decode (m.memory.word m.pc.toNat) with
  | unknown told =>
      simp [notes, Instruction.isUnknown, Instruction.isWait, counter, word_of_unknown spelled]
  | waitKey x =>
      simp only [notes, passed, ← m.keypad.first?_eq_none_iff]
      cases m.keypad.first? <;> cases m.config.keyWait <;> rfl
  | _ => rfl

/-- **And so it is worded.** -/
theorem visible_dueRecords (m : Machine) : Log.visible .trace m.dueRecords = m.dueLines := by
  rw [Log.visible_trace, dueRecords, dueLines, List.map_cons, List.map_append]
  refine congrArg₂ List.cons (Log.Record.line_of_trace rfl) (congrArg₂ _ ?_ ?_)
  · by_cases unknown : (decode (m.memory.word m.pc.toNat)).isUnknown
    · rw [if_pos unknown, if_pos unknown, List.map_singleton]
      exact congrArg₂ List.cons (Log.Record.line_of_warn rfl) rfl
    · rw [if_neg unknown, if_neg unknown, List.map_nil]
  · by_cases awaits : m.AwaitsKey
    · have text := Keypad.text_of_noneHeld awaits.2.2.2
      rw [if_pos awaits, if_pos awaits, List.map_singleton, ← text]
      exact congrArg₂ List.cons (Log.Record.line_of_trace rfl) rfl
    · rw [if_neg awaits, if_neg awaits, List.map_nil]

/-- A step keeps what its reports promise.  The fields speak of the machine before it: its counter,
and the opcode there. -/
structure StepReported (m : Machine) : Prop where
  counter : m.pc < 4096 ∧ Hex.Shows (Hex.address m.pc) 3 m.pc.toNat
  bytes : (m.memory.word m.pc.toNat).toNat =
    256 * (m.memory.read m.pc.toNat).toNat +
      (m.memory.read ((m.pc.toNat + 1) % 4096)).toNat
  opcode : Hex.Shows (Hex.opcode (m.memory.word m.pc.toNat)) 4 (m.memory.word m.pc.toNat).toNat
  records : m.step.log = m.dueRecords
  lines : Log.visible .trace m.step.log = m.dueLines
  /-- A fault names the address two on. -/
  fault : ∀ fault, m.step.result = .error fault →
    let next := (m.pc + 2) % 4096
    next < 4096 ∧ Hex.Shows (Hex.address next) 3 next.toNat ∧
      ((fault = .stackUnderflow next ∧ fault.message =
          "stack underflow: RET with an empty call stack, next instruction at "
            ++ Hex.address next) ∨
        (fault = .stackOverflow next ∧ fault.message =
          "stack overflow: CALL with a full call stack, returning to " ++ Hex.address next))

theorem step_log (m : Machine) : m.step.log = m.stepLog := by
  rw [step_total]
  cases m.passed.fault? m.next <;> rfl

theorem stepReported (wf : m.WellFormed) : m.StepReported where
  counter := ⟨wf.pc_lt, Hex.shows_address wf.pc_lt⟩
  bytes := m.memory.word_toNat m.pc.toNat
  opcode := Hex.shows_opcode _
  records := by rw [step_log, stepLog_eq wf]
  lines := by rw [step_log, stepLog_eq wf, visible_dueRecords]
  fault := by
    intro fault failed next
    have low : next < 4096 := mod_lt_4096 _
    refine ⟨low, Hex.shows_address low, ?_⟩
    rcases (step_error_iff wf).1 failed with ⟨-, -, rfl⟩ | ⟨-, -, rfl⟩
    · exact .inl ⟨rfl, rfl⟩
    · exact .inr ⟨rfl, rfl⟩

end Machine

/-! ## The reports of a run -/

/-- What a single call reported. -/
def Moment.log (k : Moment) : List Log.Record := (k.machine.perform k.call).log

namespace Machine

theorem log_stepMoments (n : Nat) (m : Machine) :
    (stepUpTo n m).log = (stepMoments n m).flatMap Moment.log := by
  induction n generalizing m with
  | zero => rfl
  | succ n ih =>
      -- The failing step is reported as well; only then do both lists end.
      rw [stepUpTo, stepMoments, List.flatMap_cons]
      cases outcome : m.step.result with
      | ok =>
          rw [Reply.andThen_of_ok outcome, ih]
          rfl
      | error fault =>
          rw [Reply.andThen_of_error outcome, List.flatMap_nil, List.append_nil]
          rfl

theorem log_momentsOf (m : Machine) (op : Operation) :
    (m.perform op).log = (m.momentsOf op).flatMap Moment.log := by
  cases op with
  | frame n =>
      show (m.frame n).log = _
      rw [frame_eq, log_stepMoments]
      rfl
  | _ => exact (List.append_nil _).symm

/-- **The reports of a run are those of its single calls**, in order. -/
theorem log_history (m : Machine) (ops : List Operation) :
    (m.performAll ops).flatMap Reply.log = (m.history ops).flatMap Moment.log := by
  induction ops generalizing m with
  | nil => rfl
  | cons op ops ih =>
      rw [performAll, history, List.flatMap_cons, List.flatMap_append, ih, log_momentsOf]

end Machine

/-! ## Reading the lines again -/

/-- The counter and the opcode of a step. -/
def Moment.fetched? (k : Moment) : Option (UInt16 × UInt16) :=
  match k.call with
  | .step => some (k.machine.pc, k.machine.memory.word k.machine.pc.toNat)
  | _ => none

def Log.Record.fetched? : Log.Record → Option (UInt16 × UInt16)
  | fetched pc word _ => some (pc, word)
  | _ => none

/-- The address that a record names. -/
def Log.Record.address? : Log.Record → Option UInt16
  | fetched pc _ _ | unknown _ pc => some pc
  | _ => none

/-- The address and the opcode of a line that starts as one of a fetch does: three digits right
after the start, and four digits four characters further. -/
def readFetch? (line : String) : Option (UInt16 × UInt16) :=
  (line.toList.dropPrefix? "TRACE 0x".toList).map fun rest =>
    (.ofNat (Hex.numeral (rest.take 3)), .ofNat (Hex.numeral ((rest.drop 7).take 4)))

theorem toList_start : "TRACE 0x".toList = ['T', 'R', 'A', 'C', 'E', ' ', '0', 'x'] :=
  String.toList_ofList

theorem Log.Record.toList_line (r : Record) :
    r.line.toList = r.level.name.toList ++ ' ' :: r.message.toList := by
  rw [line, String.toList_append, String.toList_append, List.append_assoc]
  exact congrArg _ (congrArg (· ++ _) String.toList_ofList)

/-- The other levels are told from the last one by their first letter. -/
theorem Log.Level.toList_name {level : Level} (other : level ≠ .trace) :
    ∃ c further, level.name.toList = c :: further ∧ ('T' == c) = false := by
  cases level with
  | trace => exact absurd rfl other
  | off | error | warn | info | debug => exact ⟨_, _, String.toList_ofList, rfl⟩

theorem readFetch?_of_level {r : Log.Record} (other : r.level ≠ .trace) :
    readFetch? r.line = none := by
  obtain ⟨c, further, name, apart⟩ := Log.Level.toList_name other
  rw [readFetch?, r.toList_line, name, toList_start, List.cons_append, List.dropPrefix?, BEq.comm,
    apart]
  rfl

theorem readFetch?_waiting (keys : Keypad) : readFetch? (Log.Record.waiting keys).line = none := by
  have name : Log.Level.trace.name.toList = ['T', 'R', 'A', 'C', 'E'] := String.toList_ofList
  have text : ∃ further, (Log.Record.waiting keys).message.toList = 'W' :: further := by
    show ∃ further, ("Waiting for key [" ++ keys.text ++ "]").toList = 'W' :: further
    rw [String.toList_append, String.toList_append]
    exact ⟨_, congrArg (· ++ _ ++ _) String.toList_ofList⟩
  obtain ⟨further, text⟩ := text
  rw [readFetch?, Log.Record.toList_line, Log.Record.level, name, text, toList_start]
  rfl

/-- The line of a fetch: its start, three digits, a gap of four characters, and four digits. -/
theorem Log.Record.toList_fetched (pc word : UInt16) (i : Instruction) :
    ∃ further, (fetched pc word i).line.toList =
      "TRACE 0x".toList ++ (Hex.digits 3 pc.toNat ++ (": 0x".toList ++
        (Hex.digits 4 word.toNat ++ further))) := by
  refine ⟨' ' :: i.text.toList, ?_⟩
  rw [toList_line]
  show "TRACE".toList ++
    ' ' :: (Hex.address pc ++ ": " ++ Hex.opcode word ++ " " ++ i.text).toList = _
  rw [Hex.address, Hex.opcode]
  simp only [String.toList_append, String.toList_ofList, List.append_assoc]
  rfl

theorem readFetch?_fetched {pc : UInt16} (inside : pc < 4096) (word : UInt16) (i : Instruction) :
    readFetch? (Log.Record.fetched pc word i).line = some (pc, word) := by
  obtain ⟨further, line⟩ := Log.Record.toList_fetched pc word i
  have three : (Hex.digits 3 pc.toNat).length = 3 := Hex.length_digits 3 _
  have four : (Hex.digits 4 word.toNat).length = 4 := Hex.length_digits 4 _
  have gap : (Hex.digits 3 pc.toNat ++ ": 0x".toList).length = 7 := by
    rw [List.length_append, three]
    rfl
  have small : pc.toNat < 16 ^ 3 := UInt16.lt_iff_toNat_lt.1 inside
  have fits : word.toNat < 16 ^ 4 := word.toNat_lt
  rw [readFetch?, line, List.dropPrefix?_append_of_beq _ (beq_self_eq_true _), Option.map_some,
    List.take_left' three, ← List.append_assoc, List.drop_left' gap, List.take_left' four,
    Hex.numeral_digits, Hex.numeral_digits, Nat.mod_eq_of_lt small, Nat.mod_eq_of_lt fits,
    UInt16.ofNat_toNat, UInt16.ofNat_toNat]

theorem readFetch?_line {r : Log.Record} (inside : ∀ a, r.address? = some a → a < 4096) :
    readFetch? r.line = r.fetched? := by
  cases r with
  | fetched pc word i => exact readFetch?_fetched (inside pc rfl) word i
  | waiting keys => exact readFetch?_waiting keys
  | seeding _ | reset | copied _ | loaded _ | unknown _ _ =>
      refine readFetch?_of_level ?_
      rintro ⟨⟩

example : readFetch? "TRACE 0xFFF: 0x00E0 Clear" = some (0xFFF, 0x00E0) := by decide

/-! ## Every fetch of a run, and nothing else -/

theorem dueRecords_fetched (m : Machine) :
    m.dueRecords.filterMap Log.Record.fetched? = [(m.pc, m.memory.word m.pc.toNat)] := by
  let word := m.memory.word m.pc.toNat
  have unknown : (if (decode word).isUnknown then [Log.Record.unknown word m.pc] else []).filterMap
      Log.Record.fetched? = [] := by
    split <;> rfl
  have waiting : (if m.AwaitsKey then [Log.Record.waiting m.keypad] else []).filterMap
      Log.Record.fetched? = [] := by
    split <;> rfl
  show (m.pc, word) :: List.filterMap _ (_ ++ _) = _
  rw [List.filterMap_append, unknown, waiting, List.append_nil]

theorem dueRecords_address {m : Machine} {r : Log.Record} {a : UInt16} (member : r ∈ m.dueRecords)
    (named : r.address? = some a) : a = m.pc := by
  rcases List.mem_cons.1 member with rfl | member
  · exact (Option.some.inj named).symm
  · rcases List.mem_append.1 member with member | member
    · split at member
      · obtain rfl := List.mem_singleton.1 member
        exact (Option.some.inj named).symm
      · cases member
    · split at member
      · obtain rfl := List.mem_singleton.1 member
        cases named
      · cases member

/-- A record that names no address. -/
def Log.Record.IsPlain (r : Record) : Prop := r.address? = none

theorem Log.Record.IsPlain.fetched {r : Record} (plain : r.IsPlain) : r.fetched? = none := by
  cases r with
  | fetched _ _ _ => cases plain
  | _ => rfl

theorem load_plain {m : Machine} {rom : List UInt8} : ∀ r ∈ (m.load rom).log, r.IsPlain := by
  intro r member
  rw [Machine.load_eq] at member
  split at member
  · rcases List.mem_cons.1 member with rfl | member
    · rfl
    · obtain rfl := List.mem_singleton.1 member
      rfl
  · cases member

theorem boot_plain (config : Config) (drawn : UInt64) (rom : Option (List UInt8)) :
    ∀ r ∈ (Machine.boot config drawn rom).log, r.IsPlain := by
  intro r member
  cases rom with
  | none =>
      obtain rfl := List.mem_singleton.1 member
      rfl
  | some rom =>
      rcases List.mem_cons.1 member with rfl | member
      · rfl
      · exact load_plain r member

/-- Calls other than a step report no address. -/
theorem plain_of_not_step {k : Moment} (atom : k.call.IsAtom) (other : k.call ≠ .step) :
    ∀ r ∈ k.log, r.IsPlain := by
  obtain ⟨m, op⟩ := k
  intro r member
  cases op with
  | step => exact absurd rfl other
  | frame n => exact atom.elim
  | tick | listen | press _ _ => cases member
  | reset =>
      obtain rfl := List.mem_singleton.1 member
      rfl
  | load rom => exact load_plain r member
  | loadFile path content =>
      cases content with
      | none => cases member
      | some rom => exact load_plain r member

theorem log_of_step {m : Machine} (wf : m.WellFormed) : Moment.log ⟨m, .step⟩ = m.dueRecords :=
  m.step_log.trans (Machine.stepLog_eq wf)

/-- A call's fetches are the one it made, if it is a step. -/
theorem fetched_moment {k : Moment} (wf : k.machine.WellFormed) (atom : k.call.IsAtom) :
    k.log.filterMap Log.Record.fetched? = k.fetched?.toList := by
  obtain ⟨m, op⟩ := k
  by_cases step : op = .step
  · obtain rfl := step
    rw [log_of_step wf, dueRecords_fetched]
    rfl
  · have nothing : Moment.fetched? ⟨m, op⟩ = none := by
      cases op with
      | step => exact absurd rfl step
      | _ => rfl
    rw [nothing]
    exact List.filterMap_eq_nil_iff.2 fun r member => (plain_of_not_step atom step r member).fetched

/-- Every address that a call reports is one. -/
theorem address_lt_moment {k : Moment} (wf : k.machine.WellFormed) (atom : k.call.IsAtom)
    {r : Log.Record} (member : r ∈ k.log) {a : UInt16} (named : r.address? = some a) :
    a < 4096 := by
  obtain ⟨m, op⟩ := k
  by_cases step : op = .step
  · obtain rfl := step
    rw [log_of_step wf] at member
    rw [dueRecords_address member named]
    exact wf.pc_lt
  · rw [plain_of_not_step atom step r member] at named
    cases named

/-- **Reports are faithful, over whole runs.**  From switching on, through any calls of which any
may fail: every step, whether it fails or not and whether it is made alone or in a frame, reports
what it should and nothing else; the reports of the run are those of its single calls; and the
lines of the run, read again, are the addresses and opcodes of its steps, in order. -/
theorem step_reports (config : Config) (drawn : UInt64) (rom : Option (List UInt8))
    (ops : List Operation) :
    let booted := Machine.boot config drawn rom
    let history := booted.machine.history ops
    let log := booted.log ++ (booted.machine.performAll ops).flatMap Reply.log
    (∀ k ∈ history, k.call = .step → k.machine.StepReported) ∧
      log = booted.log ++ history.flatMap Moment.log ∧
      (Log.visible .trace log).filterMap readFetch? = history.filterMap Moment.fetched? := by
  intro booted history log
  have wf : booted.machine.WellFormed := Machine.boot_wellFormed config drawn rom
  have trail : Trail booted.machine history _ := booted.machine.trail_history ops
  have sound {k : Moment} (member : k ∈ history) : k.machine.WellFormed ∧ k.call.IsAtom := by
    refine ⟨trail.wellFormed_of_mem wf member, ?_⟩
    obtain ⟨past, later, whole⟩ := List.append_of_mem member
    rw [whole] at trail
    exact trail.upTo.2
  have apart : log = booted.log ++ history.flatMap Moment.log :=
    congrArg _ (booted.machine.log_history ops)
  refine ⟨fun k member _ => Machine.stepReported (sound member).1, apart, ?_⟩
  have inside : ∀ r ∈ log, ∀ a, r.address? = some a → a < 4096 := by
    intro r member a named
    rw [apart] at member
    rcases List.mem_append.1 member with start | further
    · rw [boot_plain config drawn rom r start] at named
      cases named
    · obtain ⟨k, made, reported⟩ := List.mem_flatMap.1 further
      exact address_lt_moment (sound made).1 (sound made).2 reported named
  have start : booted.log.filterMap Log.Record.fetched? = [] :=
    List.filterMap_eq_nil_iff.2 fun r member => (boot_plain config drawn rom r member).fetched
  calc (Log.visible .trace log).filterMap readFetch?
      = log.filterMap fun r => readFetch? r.line := by
        rw [Log.visible_trace, List.filterMap_map]
        rfl
    _ = log.filterMap Log.Record.fetched? :=
        List.filterMap_congr fun r member => readFetch?_line (inside r member)
    _ = history.flatMap fun k => k.log.filterMap Log.Record.fetched? := by
        rw [apart, List.filterMap_append, start, List.nil_append, List.filterMap_flatMap]
    _ = history.flatMap fun k => k.fetched?.toList :=
        List.flatMap_congr fun k member => fetched_moment (sound member).1 (sound member).2
    _ = history.filterMap Moment.fetched? := (List.filterMap_eq_flatMap_toList _ _).symm

end Chip8
