/-
# Chip8.CommandLine.Launch — from a request to a machine that runs, or to the way out

A request to run is granted if the frame rate is positive, the program file can be read and
the program fits; the first of these that fails is reported.  `Options.launch` gives the
machine, and `Exit` is what the program leaves behind: two texts and a code.
-/
import Chip8.CommandLine.Help
import Chip8.CommandLine.Request
import Chip8.Machine.Operation

namespace Chip8.CommandLine

set_option autoImplicit false

namespace Options

def config (o : Options) : Config where
  keyWait := if o.blockOnKeyWait then .block else .poll
  seed := o.seed
  inclusive := o.inclusiveRegisterTransfer

end Options

/-- Why a program does not run. -/
inductive LaunchError
  | fpsNotPositive
  | fault (f : Fault)
  /-- There is nothing to show the screen on. -/
  | noWindow
  deriving DecidableEq, Repr

def LaunchError.message : LaunchError → String
  | fpsNotPositive => "fps must be positive"
  | fault f => f.message
  | noWindow => "could not open window"

/-- The machine with its program loaded.  `drawn` stands in for a seed that was not given,
and `content` is what reading the program file gave. -/
def Options.launch (o : Options) (drawn : UInt64) (content : Option (List UInt8)) :
    Except LaunchError Machine :=
  if 0.0 < o.fps then
    let m := (Machine.start o.config drawn).reset
    let reply := m.loadFile o.romPath content
    match reply.result with
    | .ok () => .ok reply.machine
    | .error f => .error (.fault f)
  else .error .fpsNotPositive

/-! ## The way out -/

structure Exit where
  code : UInt32
  stdout : String
  stderr : String
  deriving DecidableEq, Repr

def Exit.ofError (e : LaunchError) : Exit := ⟨1, "", "Error: " ++ e.message⟩

/-- Runs a program as far as it goes without a window. -/
def Options.run (o : Options) (drawn : UInt64) (content : Option (List UInt8)) : Exit :=
  match o.launch drawn content with
  | .error e => .ofError e
  | .ok _ => .ofError .noWindow

/-- The path that has to be read before a request can be answered. -/
def romPath? (request : Except Refusal Request) : Option String :=
  match request with
  | .ok (.run o) => some o.romPath
  | _ => none

def exit (request : Except Refusal Request) (drawn : UInt64) (content : Option (List UInt8)) :
    Exit :=
  match request with
  | .ok (.run o) => o.run drawn content
  | .ok .help => ⟨0, helpText, ""⟩
  | .ok .version => ⟨0, versionText, ""⟩
  | .error why => ⟨2, "", "error: " ++ why.message⟩

end Chip8.CommandLine
