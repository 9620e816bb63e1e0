/-
# Chip8.Random.Block — one block of the ChaCha keystream, with eight rounds

A block is a function of a 256-bit key and a 64-bit block number.  The initial state is four
constant words, the key, the number (low word first) and two zero words; four double rounds
stir it, and the stirred state is added to the initial one, word by word.
-/
import Chip8.Table

namespace Chip8.Random

set_option autoImplicit false

abbrev Key := Vector UInt32 8

abbrev State := Vector UInt32 16

def rotateLeft (w : UInt32) (n : UInt32) : UInt32 := (w <<< n) ||| (w >>> (32 - n))

/-- Stirs four of the sixteen words. -/
def quarterRound (s : State) (a b c d : Fin 16) : State :=
  let wa := Table.get s a + Table.get s b
  let wd := rotateLeft (Table.get s d ^^^ wa) 16
  let wc := Table.get s c + wd
  let wb := rotateLeft (Table.get s b ^^^ wc) 12
  let wa := wa + wb
  let wd := rotateLeft (wd ^^^ wa) 8
  let wc := wc + wd
  let wb := rotateLeft (wb ^^^ wc) 7
  Table.set (Table.set (Table.set (Table.set s a wa) b wb) c wc) d wd

/-- The four columns, then the four diagonals. -/
def doubleRound (s : State) : State :=
  let s := quarterRound s 0 4 8 12
  let s := quarterRound s 1 5 9 13
  let s := quarterRound s 2 6 10 14
  let s := quarterRound s 3 7 11 15
  let s := quarterRound s 0 5 10 15
  let s := quarterRound s 1 6 11 12
  let s := quarterRound s 2 7 8 13
  quarterRound s 3 4 9 14

def initialState (key : Key) (number : UInt64) : State :=
  let constants : Vector UInt32 4 := #v[0x61707865, 0x3320646e, 0x79622d32, 0x6b206574]
  let place : Vector UInt32 4 := #v[number.toUInt32, (number >>> 32).toUInt32, 0, 0]
  constants ++ key ++ place

def block (key : Key) (number : UInt64) : State :=
  let start := initialState key number
  start.zipWith (· + ·) (doubleRound (doubleRound (doubleRound (doubleRound start))))

end Chip8.Random
