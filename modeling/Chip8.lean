import Chip8.CallStack
import Chip8.CommandLine.Help
import Chip8.CommandLine.Launch
import Chip8.CommandLine.Numeral
import Chip8.CommandLine.Opt
import Chip8.CommandLine.Request
import Chip8.Config
import Chip8.Fault
import Chip8.Instruction
import Chip8.Instruction.Decode
import Chip8.Keymap
import Chip8.Keypad
import Chip8.Log
import Chip8.Machine
import Chip8.Machine.Execute
import Chip8.Machine.Operation
import Chip8.Machine.Step
import Chip8.Main
import Chip8.Memory
import Chip8.Proofs.Alike
import Chip8.Proofs.Batching
import Chip8.Proofs.CallDiscipline
import Chip8.Proofs.Commuting
import Chip8.Proofs.Counter
import Chip8.Proofs.Decimals
import Chip8.Proofs.Drawing
import Chip8.Proofs.Effect
import Chip8.Proofs.Encoding
import Chip8.Proofs.Failure
import Chip8.Proofs.Flags
import Chip8.Proofs.Forgetting
import Chip8.Proofs.Frame
import Chip8.Proofs.HexReading
import Chip8.Proofs.History
import Chip8.Proofs.KeyWait
import Chip8.Proofs.KeypadReplay
import Chip8.Proofs.LastWrite
import Chip8.Proofs.Launch
import Chip8.Proofs.Lockstep
import Chip8.Proofs.Options
import Chip8.Proofs.Outputs
import Chip8.Proofs.Overdrawing
import Chip8.Proofs.Recent
import Chip8.Proofs.Rekeyed
import Chip8.Proofs.Rolls
import Chip8.Proofs.ScreenReplay
import Chip8.Proofs.Spelling
import Chip8.Proofs.Standstill
import Chip8.Proofs.StepLog
import Chip8.Proofs.Timers
import Chip8.Proofs.Transfers
import Chip8.Proofs.Unread
import Chip8.Proofs.View
import Chip8.Proofs.WellFormed
import Chip8.Random.Block
import Chip8.Random.Stream
import Chip8.Screen
import Chip8.Sprite
import Chip8.Table
import Chip8.Text.Hex
import Chip8.Text.Quoted
import Chip8.Text.Stripped
import Chip8.Text.Unprintable
