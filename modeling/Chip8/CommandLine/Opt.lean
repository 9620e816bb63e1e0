/-
# Chip8.CommandLine.Opt — the options there are

A setting takes a value, a switch stands alone, and two options ask for text about the
program instead of running it.
-/

namespace Chip8.CommandLine

set_option autoImplicit false

inductive Setting
  | romPath
  | cycles
  | fps
  | seed
  deriving DecidableEq, Repr

inductive Switch
  | blockOnKeyWait
  | inclusiveRegisterTransfer
  deriving DecidableEq, Repr

inductive Opt
  | setting (s : Setting)
  | switch (s : Switch)
  | help
  | version
  deriving DecidableEq, Repr

namespace Opt

/-- The name after two dashes. -/
def long : Opt → String
  | setting .romPath => "rom-path"
  | setting .cycles => "cycles"
  | setting .fps => "fps"
  | setting .seed => "seed"
  | switch .blockOnKeyWait => "block-on-key-wait"
  | switch .inclusiveRegisterTransfer => "inclusive-register-transfer"
  | help => "help"
  | version => "version"

/-- The letter after one dash, for those that have one. -/
def short? : Opt → Option Char
  | setting .romPath => some 'r'
  | setting .cycles => some 'c'
  | setting .fps => some 'f'
  | setting .seed => some 's'
  | switch _ => none
  | help => some 'h'
  | version => some 'V'

/-- The word that stands for a setting's value. -/
def valueName? : Opt → Option String
  | setting .romPath => some "FILE"
  | setting .cycles => some "CYCLES"
  | setting .fps => some "FPS"
  | setting .seed => some "SEED"
  | _ => none

/-- What the option is for. -/
def purpose : Opt → String
  | setting .romPath => "The path of the rom to load"
  | setting .cycles => "Instructions executed per frame [default: 10]"
  | setting .fps => "Frames per second; the timers tick once per frame [default: 60]"
  | setting .seed => "Seed for the RND instruction"
  | switch .blockOnKeyWait => "Make LD Vx, K wait until a key is pressed"
  | switch .inclusiveRegisterTransfer => "Make LD [I], Vx and LD Vx, [I] include Vx itself"
  | help => "Print help"
  | version => "Print version"

/-- All of them, in the order in which they are listed. -/
def all : List Opt :=
  [setting .romPath, setting .cycles, setting .fps, setting .seed, switch .blockOnKeyWait,
    switch .inclusiveRegisterTransfer, help, version]

def ofLong? (name : String) : Option Opt := all.find? fun o => o.long == name

def ofShort? (c : Char) : Option Opt := all.find? fun o => o.short? == some c

/-- The option as it is written in full, with its value's name. -/
def shown (o : Opt) : String :=
  match o.valueName? with
  | none => "--" ++ o.long
  | some value => "--" ++ o.long ++ " <" ++ value ++ ">"

end Opt

end Chip8.CommandLine
