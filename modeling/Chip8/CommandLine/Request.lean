/-
# Chip8.CommandLine.Request — what a list of arguments asks for

Arguments are read from left to right.  A setting's value is in the same argument, after an
equals sign or after its letter, or it is the next argument.  A setting that waits for its
value, or has just been given it, is settled at the next option that is written correctly,
or at the end; only then is the value looked at.  So an argument that is no option at all is
refused before a bad value that stands in front of it, and every other fault is reported in
the order of the arguments.
-/
import Chip8.CommandLine.Numeral
import Chip8.CommandLine.Opt
import Chip8.Text.Stripped

namespace Chip8.CommandLine

set_option autoImplicit false

/-- Everything there is to know to run a program. -/
structure Options where
  romPath : String
  /-- Steps in a frame. -/
  cycles : Nat
  /-- Frames in a second. -/
  fps : Float
  seed : Option UInt64
  blockOnKeyWait : Bool
  inclusiveRegisterTransfer : Bool
  deriving Repr

inductive Request
  | run (options : Options)
  | help
  | version
  deriving Repr

/-- Why a list of arguments asks for nothing. -/
inductive Refusal
  | unexpectedArgument (argument : String)
  | unexpectedValue (value : String) (option : Opt)
  | missingValue (setting : Setting)
  | repeated (option : Opt)
  | invalidValue (value : String) (setting : Setting) (why : NumeralError)
  | missingRomPath
  deriving DecidableEq, Repr

/-- Arguments are repeated without their control sequences. -/
def Refusal.message : Refusal → String
  | unexpectedArgument a => "unexpected argument '" ++ stripped a ++ "' found"
  | unexpectedValue v o =>
      "unexpected value '" ++ stripped v ++ "' for '" ++ o.shown ++ "' found; no more were expected"
  | missingValue s =>
      "a value is required for '" ++ (Opt.setting s).shown ++ "' but none was supplied"
  | repeated o => "the argument '" ++ o.shown ++ "' cannot be used multiple times"
  | invalidValue v s why =>
      "invalid value '" ++ stripped v ++ "' for '" ++ (Opt.setting s).shown ++ "': " ++ why.message
  | missingRomPath =>
      "the following required arguments were not provided:\n  "
        ++ (Opt.setting .romPath).shown

/-- Why reading stops before the last argument. -/
inductive Stop
  | refused (why : Refusal)
  | help
  | version

/-- What has been read so far. -/
structure Progress where
  romPath : Option String := none
  cycles : Option Nat := none
  fps : Option Float := none
  seed : Option UInt64 := none
  blockOnKeyWait : Bool := false
  inclusiveRegisterTransfer : Bool := false
  /-- A setting not yet settled, and its value once that has been read. -/
  waiting : Option (Setting × Option String) := none

namespace Progress

/-! ## Settings and switches -/

def has (p : Progress) : Setting → Bool
  | .romPath => p.romPath.isSome
  | .cycles => p.cycles.isSome
  | .fps => p.fps.isSome
  | .seed => p.seed.isSome

/-- The value of a setting, if the text is one. -/
def assign (p : Progress) (s : Setting) (value : String) : Except Refusal Progress :=
  let digits := value.toList
  match s with
  | .romPath =>
    if value.isEmpty then .error (.missingValue s) else .ok { p with romPath := some value }
  | .cycles =>
    match readNatural UInt64.size digits with
    | .ok n => .ok { p with cycles := some n }
    | .error why => .error (.invalidValue value s why)
  | .fps =>
    match readFloat digits with
    | .ok x => .ok { p with fps := some x }
    | .error why => .error (.invalidValue value s why)
  | .seed =>
    match readNatural UInt64.size digits with
    | .ok n => .ok { p with seed := some (UInt64.ofNat n) }
    | .error why => .error (.invalidValue value s why)

/-- A setting may be given once. -/
def give (p : Progress) (s : Setting) (value : String) : Except Refusal Progress :=
  if p.has s then .error (.repeated (.setting s)) else p.assign s value

/-- Nothing waits any more: the value is given, or missed. -/
def settle (p : Progress) : Except Refusal Progress :=
  match p.waiting with
  | none => .ok p
  | some (s, none) => .error (.missingValue s)
  | some (s, some value) => { p with waiting := none }.give s value

/-- A switch may be turned once. -/
def turn (p : Progress) : Switch → Except Refusal Progress
  | .blockOnKeyWait =>
    if p.blockOnKeyWait then .error (.repeated (.switch .blockOnKeyWait))
    else .ok { p with blockOnKeyWait := true }
  | .inclusiveRegisterTransfer =>
    if p.inclusiveRegisterTransfer then
      .error (.repeated (.switch .inclusiveRegisterTransfer))
    else .ok { p with inclusiveRegisterTransfer := true }

/-! ## One argument -/

/-- A refusal ends the reading. -/
def orStop {α : Type} (r : Except Refusal α) : Except Stop α := r.mapError .refused

def refuse {α : Type} (why : Refusal) : Except Stop α := .error (.refused why)

/-- An option, with the value written in the same argument if there is one. -/
def option (p : Progress) (o : Opt) (value : Option String) : Except Stop Progress := do
  match o, value with
  | .setting s, some value => orStop ((← orStop p.settle).give s value)
  | .setting s, none => return { ← orStop p.settle with waiting := some (s, none) }
  | o, some value => refuse (.unexpectedValue value o)
  | .switch s, none => orStop ((← orStop p.settle).turn s)
  | .help, none => do
    let _ ← orStop p.settle
    throw .help
  | .version, none => do
    let _ ← orStop p.settle
    throw .version

/-- What follows two dashes: a name, and a value after the first equals sign. -/
def long (p : Progress) (cs : List Char) : Except Stop Progress :=
  let name := String.ofList (cs.takeWhile (· != '='))
  match Opt.ofLong? name, cs.dropWhile (· != '=') with
  | none, _ => refuse (.unexpectedArgument ("--" ++ name))
  | some o, [] => p.option o none
  | some o, _ :: value => p.option o (some (String.ofList value))

/-- What follows one dash: a letter.  After a setting's letter comes its value, with or
without an equals sign; help and version end the reading whatever follows them. -/
def short (p : Progress) (c : Char) (cs : List Char) : Except Stop Progress :=
  match Opt.ofShort? c, cs with
  | none, _ => refuse (.unexpectedArgument ("-" ++ c.toString))
  | some (.setting s), '=' :: value => p.option (.setting s) (some (String.ofList value))
  | some (.setting s), value@(_ :: _) => p.option (.setting s) (some (String.ofList value))
  | some o, _ => p.option o none

/-- An argument without dashes, or one dash alone: the value of the setting that waits for
one. -/
def plain (p : Progress) (argument : String) : Except Stop Progress :=
  match p.waiting with
  | some (s, none) => .ok { p with waiting := some (s, some argument) }
  | _ => refuse (.unexpectedArgument argument)

def argument (p : Progress) (a : String) : Except Stop Progress :=
  match a.toList with
  | '-' :: '-' :: cs => p.long cs
  | '-' :: c :: cs => p.short c cs
  | _ => p.plain a

/-! ## All arguments -/

/-- Two dashes alone say that no option follows; since the program takes nothing but
options, whatever follows them is refused. -/
def arguments (p : Progress) : List String → Except Stop Progress
  | [] => orStop p.settle
  | "--" :: [] => orStop p.settle
  | "--" :: a :: _ => refuse (.unexpectedArgument a)
  | a :: rest => do (← p.argument a).arguments rest

/-- The settings that were given, and the others at their defaults. -/
def options (p : Progress) : Except Refusal Options :=
  match p.romPath with
  | none => .error .missingRomPath
  | some romPath => .ok
    { romPath
      cycles := p.cycles.getD 10
      fps := p.fps.getD 60.0
      seed := p.seed
      blockOnKeyWait := p.blockOnKeyWait
      inclusiveRegisterTransfer := p.inclusiveRegisterTransfer }

end Progress

/-- What the arguments ask for. -/
def Request.ofArguments (args : List String) : Except Refusal Request :=
  match Progress.arguments {} args with
  | .ok p => p.options.map .run
  | .error .help => .ok .help
  | .error .version => .ok .version
  | .error (.refused why) => .error why

end Chip8.CommandLine
