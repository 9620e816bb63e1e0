/-
# Chip8.CommandLine.Help — what the program says about itself

One line an option: its letter if it has one, its full form, and, all in one column, what it
is for.
-/
import Chip8.CommandLine.Opt

namespace Chip8.CommandLine

set_option autoImplicit false

def spaces (n : Nat) : String := String.ofList (List.replicate n ' ')

/-- An option's letter, or room for one, and its full form. -/
def helpTerm (o : Opt) : String :=
  match o.short? with
  | some c => "  -" ++ c.toString ++ ", " ++ o.shown
  | none => "      " ++ o.shown

/-- The width of the longest term, and two spaces. -/
def helpColumn : Nat := (Opt.all.map fun o => (helpTerm o).length).foldl max 0 + 2

def helpLine (o : Opt) : String :=
  helpTerm o ++ spaces (helpColumn - (helpTerm o).length) ++ o.purpose ++ "\n"

def helpText : String :=
  "Usage: chip8vm [OPTIONS] --rom-path <FILE>\n\nOptions:\n"
    ++ "".intercalate (Opt.all.map helpLine)

def versionText : String := "chip8vm 0.1.0\n"

end Chip8.CommandLine
