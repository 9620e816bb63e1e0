/-
# Chip8.Text.Quoted — text between double quotes, on one line

A quoted text shows every character: the quote and the backslash get a backslash, tab,
line feed, carriage return and NUL have a letter of their own, and every other control or
unprintable character is written as its code point in braces.  All else stands as it is,
the single quote included.
-/
import Chip8.Text.Unprintable

namespace Chip8.Quoted

set_option autoImplicit false

/-- The code point in lower-case hexadecimal, without leading zeros, in braces. -/
def codePoint (c : Char) : List Char :=
  ['\\', 'u', '\x7b'] ++ Nat.toDigits 16 c.toNat ++ ['\x7d']

def escape (c : Char) : List Char :=
  match c with
  | '"' => ['\\', '"']
  | '\\' => ['\\', '\\']
  | '\t' => ['\\', 't']
  | '\n' => ['\\', 'n']
  | '\r' => ['\\', 'r']
  | '\x00' => ['\\', '0']
  | c =>
    if c.toNat < 0x20 || c.toNat == 0x7F || isUnprintable c then codePoint c else [c]

end Chip8.Quoted

namespace Chip8

def quoted (s : String) : String :=
  String.ofList ('"' :: s.toList.flatMap Quoted.escape ++ ['"'])

end Chip8
