import GrammarCorpus.Text.Blank

namespace GrammarCorpus

/-!
# Integer numerals

A numeral is a run of decimal digits of any script, with single underscores
allowed between digits, an optional sign in front, and white space around it.
Numerals of more than 4300 digits are refused.
-/

namespace Text

/-- The zeros of all decimal digit ranges; nine further digits follow each. -/
def digitZeros : List Nat :=
  [0x30, 0x660, 0x6f0, 0x7c0, 0x966, 0x9e6, 0xa66, 0xae6, 0xb66, 0xbe6, 0xc66, 0xce6,
    0xd66, 0xde6, 0xe50, 0xed0, 0xf20, 0x1040, 0x1090, 0x17e0, 0x1810, 0x1946, 0x19d0,
    0x1a80, 0x1a90, 0x1b50, 0x1bb0, 0x1c40, 0x1c50, 0xa620, 0xa8d0, 0xa900, 0xa9d0,
    0xa9f0, 0xaa50, 0xabf0, 0xff10, 0x104a0, 0x10d30, 0x11066, 0x110f0, 0x11136,
    0x111d0, 0x112f0, 0x11450, 0x114d0, 0x11650, 0x116c0, 0x11730, 0x118e0, 0x11950,
    0x11c50, 0x11d50, 0x11da0, 0x16a60, 0x16ac0, 0x16b50, 0x1d7ce, 0x1d7d8, 0x1d7e2,
    0x1d7ec, 0x1d7f6, 0x1e140, 0x1e2f0, 0x1e950, 0x1fbf0]

/-- The value of a decimal digit. -/
def digit? (character : Char) : Option Nat :=
  (digitZeros.find? fun base =>
    base ≤ character.toNat && character.toNat ≤ base + 9).map
      fun base => character.toNat - base

/-- The values of a nonempty run of digits, with single underscores between digits. -/
def digits? : List Char → Option (List Nat)
  | [] => none
  | [character] => (digit? character).map fun value => [value]
  | character :: '_' :: rest => do
      let value ← digit? character
      let values ← digits? rest
      return value :: values
  | character :: rest => do
      let value ← digit? character
      let values ← digits? rest
      return value :: values

/-- The number written by decimal digits, the most significant first. -/
def ofDigits (values : List Nat) : Nat :=
  values.foldl (fun number value => 10 * number + value) 0

/-- Removes a sign; the flag tells whether it was a minus. -/
def dropSign : List Char → Bool × List Char
  | '-' :: rest => (true, rest)
  | '+' :: rest => (false, rest)
  | characters => (false, characters)

/-- The greatest number of digits in a numeral. -/
def digitLimit : Nat :=
  4300

/-- Whether an integer has more digits than a numeral may have. -/
def isTooLong (number : Int) : Bool :=
  Nat.pow 10 digitLimit ≤ number.natAbs

/-- The integer written by a numeral. -/
def integer? (text : String) : Option Int := do
  let (negative, body) := dropSign (trimWhiteSpace text.toList)
  let values ← digits? body
  if digitLimit < values.length then
    none
  else
    let magnitude : Int := ofDigits values
    return if negative then -magnitude else magnitude

/-- Ten follows nine: digits of one range are numbered from their zero. -/
example : digit? '0' = some 0 ∧ digit? '9' = some 9 ∧ digit? 'a' = none := by decide

end Text

end GrammarCorpus
