/-
# Chip8.Main — the program

Reads the program file the arguments name, draws a seed, and leaves with the texts and the
code that `Chip8.CommandLine.exit` gives.
-/
import Chip8.CommandLine.Launch

open Chip8 CommandLine

set_option autoImplicit false

/-- The bytes of a file, if it can be read. -/
def readRom (path : String) : IO (Option (List UInt8)) := do
  try
    return some (← IO.FS.readBinFile path).toList
  catch _ =>
    return none

def main (args : List String) : IO UInt32 := do
  let request := Request.ofArguments args
  let content ← match romPath? request with
    | some path => readRom path
    | none => pure none
  let drawn := (← IO.getRandomBytes 8).toList.foldl (fun n b => n * 256 + b.toUInt64) 0
  let exit := exit request drawn content
  IO.print exit.stdout
  unless exit.stderr.isEmpty do IO.eprintln exit.stderr
  return exit.code
