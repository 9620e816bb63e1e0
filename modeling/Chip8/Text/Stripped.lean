/-
# Chip8.Text.Stripped — text as a terminal shows it, without its control sequences

An escape character begins a sequence, and none of it is shown up to its final character.
Controls and the delete character are not shown either.  Four of the controls are white space:
those are shown, inside an escape sequence too, and there the characters that follow one are
shown as well, up to the next that is not text; then the sequence goes on, unless a character
beyond ASCII has ended it.  An operating system command and the strings of a device hide all
they hold.
-/

namespace Chip8

set_option autoImplicit false

namespace Stripped

/-- What the characters read so far leave open. -/
inductive Place
  | text
  /-- After the escape character. -/
  | escape
  /-- After an escape character and intermediates. -/
  | escapeIntermediate
  /-- In a control sequence proper, before its final character. -/
  | control
  /-- In an operating system command, up to the bell. -/
  | command
  /-- At the head of a device control string. -/
  | device
  | deviceParameter
  | deviceIntermediate
  /-- In a string up to its terminator. -/
  | string
  deriving DecidableEq, Repr

def isBetween (first last c : Char) : Bool := first ≤ c && c ≤ last

/-- Intermediate characters. -/
def isIntermediate (c : Char) : Bool := isBetween ' ' '/' c

/-- The controls that are white space. -/
def isBlankControl (c : Char) : Bool := c = '\t' || c = '\n' || c = '\x0c' || c = '\r'

/-- The terminator of a string is one byte, and it is found also inside a character. -/
def holdsTerminator (c : Char) : Bool := (String.utf8EncodeChar c).contains 0x9C

namespace Place

/-- Whether a character is shown. -/
def shows (p : Place) (c : Char) : Bool :=
  match p with
  | text => isBetween ' ' '~' c || isBlankControl c || '\x7f' < c
  | escape | escapeIntermediate | control => isBlankControl c
  | command | device | deviceParameter | deviceIntermediate | string => false

/-- The place after a character that is not shown.  Cancel and substitute end every sequence
and escape begins one anywhere. -/
def next (p : Place) (c : Char) : Place :=
  if c = '\x1b' then escape
  else if c = '\x18' || c = '\x1a' then text
  else match p with
  | text => text
  | escape =>
    if c = '[' then control
    else if c = ']' then command
    else if c = 'P' then device
    else if c = 'X' || c = '^' || c = '_' then string
    else if isIntermediate c then escapeIntermediate
    else if isBetween '0' '~' c then text
    else escape
  | escapeIntermediate => if isBetween '0' '~' c then text else escapeIntermediate
  | control => if isBetween '@' '~' c then text else control
  | command => if c = '\x07' then text else command
  | device =>
    if isIntermediate c then deviceIntermediate
    else if isBetween '0' '?' c then deviceParameter
    else if isBetween '@' '~' c then string
    else device
  | deviceParameter =>
    if isIntermediate c then deviceIntermediate
    else if isBetween '<' '~' c then string
    else deviceParameter
  | deviceIntermediate => if isBetween '0' '~' c then string else deviceIntermediate
  | string => if holdsTerminator c then text else string

end Place

/-- The characters that are shown.  `showing` says that the last one was, so that this one is
judged as text wherever it stands; a shown character beyond ASCII ends the sequence. -/
def strip (p : Place) (showing : Bool) : List Char → List Char
  | [] => []
  | c :: cs =>
    if (if showing then Place.text else p).shows c then
      c :: strip (if '\x7f' < c then .text else p) true cs
    else strip (p.next c) false cs

end Stripped

def stripped (s : String) : String := String.ofList (Stripped.strip .text false s.toList)

end Chip8
