/-
# Chip8.CommandLine.Numeral — numbers as they are written in arguments

Whole numbers are read digit by digit and refused at the first character that is no digit
or makes the number too large.  Decimal numbers have an optional sign, digits with an
optional point among them, and an optional exponent; `inf`, `infinity` and `nan` are words
for values that have no digits.
-/

namespace Chip8.CommandLine

set_option autoImplicit false

inductive NumeralError
  | emptyInteger
  | invalidDigit
  | tooLarge
  | emptyFloat
  | invalidFloat
  deriving DecidableEq, Repr

def NumeralError.message : NumeralError → String
  | emptyInteger => "cannot parse integer from empty string"
  | invalidDigit => "invalid digit found in string"
  | tooLarge => "number too large to fit in target type"
  | emptyFloat => "cannot parse float from empty string"
  | invalidFloat => "invalid float literal"

/-! ## Digits -/

def digitValue (c : Char) : Nat := c.toNat - '0'.toNat

/-- The number that a list of digits goes on to, after `n`. -/
def digitsValue (n : Nat) (ds : List Char) : Nat := ds.foldl (fun n d => 10 * n + digitValue d) n

/-! ## Whole numbers -/

/-- Goes on reading a number below `bound`; what has been read so far is `n`. -/
def readDigits (bound n : Nat) : List Char → Except NumeralError Nat
  | [] => .ok n
  | c :: cs =>
    if c.isDigit then
      let n := 10 * n + digitValue c
      if n < bound then readDigits bound n cs else .error .tooLarge
    else .error .invalidDigit

/-- A whole number below `bound`; a plus sign may stand before it. -/
def readNatural (bound : Nat) : List Char → Except NumeralError Nat
  | [] => .error .emptyInteger
  | ['+'] => .error .invalidDigit
  | '+' :: cs => readDigits bound 0 cs
  | cs => readDigits bound 0 cs

/-! ## Decimal numbers -/

/-- The digits at the front, and the rest. -/
def takeDigits (cs : List Char) : List Char × List Char := cs.span Char.isDigit

/-- A sign at the front, true for minus, and the rest. -/
def takeSign : List Char → Bool × List Char
  | '-' :: cs => (true, cs)
  | '+' :: cs => (false, cs)
  | cs => (false, cs)

/-- A point and the digits after it, if there is a point. -/
def takeFraction : List Char → List Char × List Char
  | '.' :: cs => takeDigits cs
  | cs => ([], cs)

/-- The whole of `cs` as an exponent; nothing at all is the exponent 0. -/
def readExponent (cs : List Char) : Option Int :=
  match cs with
  | [] => some 0
  | e :: cs =>
    if e = 'e' ∨ e = 'E' then
      let (minus, cs) := takeSign cs
      let (ds, rest) := takeDigits cs
      if ds.isEmpty ∨ ¬rest.isEmpty then none
      else some (if minus then -(digitsValue 0 ds : Int) else digitsValue 0 ds)
    else none

/-- The float nearest to `n` times ten to the power `e`.  Where the powers of ten alone
decide, no power is computed: such a number is zero or infinite. -/
def scaled (n : Nat) (e : Int) : Float :=
  let size := ((Nat.toDigits 10 n).length : Int) + e
  if n = 0 ∨ size < -330 then 0.0
  else if 320 < size then 1.0 / 0.0
  else if e < 0 then Float.ofScientific n true e.natAbs
  else Float.ofScientific n false e.natAbs

/-- A decimal number without its sign. -/
def readMagnitude (cs : List Char) : Option Float :=
  let word := String.ofList (cs.map Char.toLower)
  if word = "inf" ∨ word = "infinity" then some (1.0 / 0.0)
  else if word = "nan" then some (0.0 / 0.0)
  else
    let (whole, rest) := takeDigits cs
    let (fraction, rest) := takeFraction rest
    if whole.isEmpty ∧ fraction.isEmpty then none
    else (readExponent rest).map fun e =>
      scaled (digitsValue 0 (whole ++ fraction)) (e - fraction.length)

def readFloat (cs : List Char) : Except NumeralError Float :=
  match cs with
  | [] => .error .emptyFloat
  | cs =>
    let (minus, cs) := takeSign cs
    match readMagnitude cs with
    | some x => .ok (if minus then -x else x)
    | none => .error .invalidFloat

end Chip8.CommandLine
