/-
# Chip8.Machine.Execute — what one instruction does

`execute` runs an instruction on a machine whose program counter has already moved past it,
which is what calls remember and what skips start from.  Register numbers and sums are
checked; `Chip8.Fault` says why that is a statement and not a precaution.  An instruction that
fails has done what comes before the check that failed.

`notes` lists what executing an instruction has to report, from the same machine.
-/
import Chip8.Log
import Chip8.Machine
import Chip8.Sprite

namespace Chip8

set_option autoImplicit false

/-- The three decimal digits of a byte, hundreds first. -/
def decimalDigits (b : UInt8) : List UInt8 := [b / 100, b / 10 % 10, b % 10]

namespace Machine

/-- Copies a register to memory at the index, and moves the index on. -/
def storeReg (j : Nat) : Action Machine Unit := do
  let m ← get
  let b ← entry m.v j
  set { m with memory := m.memory.write m.index.toNat b }
  modify fun m => { m with index := m.index + 1 }

/-- Copies memory at the index to a register, and moves the index on. -/
def loadReg (j : Nat) : Action Machine Unit := do
  let m ← get
  set { m with v := ← withEntry m.v j (m.memory.read m.index.toNat) }
  modify fun m => { m with index := m.index + 1 }

/-- What an instruction does, one thing after another. -/
def carryOut : Instruction → Action Machine Unit
  | .clear => modify fun m => { m with screen := .blank }
  | .ret => do
    let m ← get
    let pc ← onStack (CallStack.pop m.pc)
    modify fun m => { m with pc }
  | .jump a => modify fun m => { m with pc := a }
  | .call a => do
    let m ← get
    onStack (CallStack.push m.pc)
    modify fun m => { m with pc := a }
  | .skipEqByte x k => do
    let a ← reg x
    modify (·.skipIf (a == k))
  | .skipNeByte x k => do
    let a ← reg x
    modify (·.skipIf (a != k))
  | .skipEqReg x y => do
    let a ← reg x
    let b ← reg y
    modify (·.skipIf (a == b))
  | .skipNeReg x y => do
    let a ← reg x
    let b ← reg y
    modify (·.skipIf (a != b))
  | .loadByte x k => setReg x k
  | .addByte x k => do setReg x ((← reg x) + k)
  | .copy x y => do setReg x (← reg y)
  | .or x y => do setReg x ((← reg x) ||| (← reg y))
  | .and x y => do setReg x ((← reg x) &&& (← reg y))
  | .xor x y => do setReg x ((← reg x) ^^^ (← reg y))
  | .add x y => do
    let a ← reg x
    let b ← reg y
    setFlagged x (a + b) (256 ≤ a.toNat + b.toNat)
  | .sub x y => do
    let a ← reg x
    let b ← reg y
    setFlagged x (a - b) (b < a)
  | .shiftRight x => do
    let a ← reg x
    setFlagged x (a / 2) (a % 2 == 1)
  | .subFrom x y => do
    let a ← reg x
    let b ← reg y
    setFlagged x (b - a) (a < b)
  | .shiftLeft x => do
    let a ← reg x
    setFlagged x (a * 2) (128 ≤ a)
  | .loadIndex a => modify fun m => { m with index := a }
  | .jumpOffset a => do
    let target := a.toNat + (← reg 0).toNat
    if 65536 ≤ target then throw .wordOverflow
    modify fun m => { m with pc := UInt16.ofNat target % 4096 }
  | .random x k => do
    let m ← get
    let (word, random) := m.random.next
    set { m with random }
    setReg x (word.toUInt8 &&& k)
  | .draw x y rows => do
    let column ← reg x
    let row ← reg y
    modify fun m =>
      let sprite := m.memory.block m.index.toNat rows.toNat
      let (screen, hit) := m.screen.flip (Sprite.footprint column.toNat row.toNat sprite)
      { m with screen }.setFlag hit
  | .skipHeld x => do
    let key ← reg x
    modify fun m => m.skipIf (m.keypad.isHeld key)
  | .skipNotHeld x => do
    let key ← reg x
    modify fun m => m.skipIf (!m.keypad.isHeld key)
  | .readDelay x => do
    let m ← get
    setReg x m.delay
  | .waitKey x => do
    let m ← get
    match m.keypad.first?, m.config.keyWait with
    | some key, _ => setReg x key
    | none, .block => set { m with pc := (m.pc - 2) % 4096 }
    | none, .poll => pure ()
  | .setDelay x => do
    let b ← reg x
    modify fun m => { m with delay := b }
  | .setSound x => do
    let b ← reg x
    modify fun m => { m with sound := b }
  | .addIndex x => do
    let b ← reg x
    modify fun m => { m with index := m.index + b.toUInt16 }
  | .loadGlyph x => do
    let target := (← reg x).toNat * Memory.glyphSize
    if 65536 ≤ target then throw .wordOverflow
    modify fun m => { m with index := UInt16.ofNat target }
  | .storeDecimal x => do
    let digits := decimalDigits (← reg x)
    modify fun m => { m with memory := m.memory.writeBlock m.index.toNat digits }
  | .storeRegs x => do
    let m ← get
    (List.range (m.config.transferCount x)).forM storeReg
  | .loadRegs x => do
    let m ← get
    (List.range (m.config.transferCount x)).forM loadReg
  | .unknown _ => pure ()

/-- Runs an instruction; where it fails, the machine is left as the fault found it. -/
def execute (m : Machine) (i : Instruction) : EStateM.Result Fault Machine Unit :=
  (carryOut i).run m

/-- What there is to report about an instruction besides that it was fetched. -/
def notes (m : Machine) : Instruction → List Log.Record
  | .unknown word => [.unknown word ((m.pc - 2) % 4096)]
  | .waitKey _ =>
    match m.keypad.first?, m.config.keyWait with
    | none, .block => [.waiting m.keypad]
    | _, _ => []
  | _ => []

end Machine

end Chip8
