import GrammarCorpus.Random.Source

namespace GrammarCorpus

/-!
# The Mersenne twister

The generator of 32-bit words with period `2 ^ 19937 - 1`. A stream starts from an
integer, of which only the absolute value counts: its 32-bit words, the least
significant first, are mixed into the state.

Bounded numbers are drawn by refusal: as many bits as the bound has are drawn until
they form a number below it. A refusal is at most as likely as an acceptance, and
after `refusalLimit` of them in a row the least number allowed is taken, so every
draw comes to an end.
-/

/-- The state of the twister: its words, and how many of them have been given out. -/
structure Mersenne where
  words : Array UInt32
  given : Nat

namespace Mersenne

/-- The number of words in the state. -/
def stateSize : Nat :=
  624

/-- The distance between two words that are combined. -/
def lag : Nat :=
  397

/-- A word of the state. -/
def word (words : Array UInt32) (index : Nat) : UInt32 :=
  words.getD index 0

/-- The word that the next one is made from, with its top bits folded down. -/
def folded (words : Array UInt32) (index : Nat) : UInt32 :=
  word words index ^^^ (word words index >>> 30)

/-- The state made from a single word. -/
def initialWords (seed : UInt32) : Array UInt32 :=
  (stateSize - 1).fold
    (fun index _ words =>
      words.push (1812433253 * folded words index + UInt32.ofNat (index + 1)))
    #[seed]

/-- The index after a given one, and the words with the first one renewed at the turn. -/
def turn (words : Array UInt32) (index : Nat) : Array UInt32 × Nat :=
  if index + 1 < stateSize then
    (words, index + 1)
  else
    (words.setIfInBounds 0 (word words (stateSize - 1)), 1)

/-- Mixes the words of a key into the state, each as often as the state needs. -/
def mixKey (key : Array UInt32) (words : Array UInt32) : Array UInt32 × Nat :=
  (max stateSize key.size).fold
    (fun step _ (words, index) =>
      let keyIndex := step % key.size
      let mixed :=
        (word words index ^^^ (folded words (index - 1) * 1664525)) +
          word key keyIndex + UInt32.ofNat keyIndex
      turn (words.setIfInBounds index mixed) index)
    (words, 1)

/-- Mixes the state with itself, going on at a given index. -/
def mixAgain (start : Array UInt32 × Nat) : Array UInt32 :=
  ((stateSize - 1).fold
    (fun _ _ (words, index) =>
      let mixed :=
        (word words index ^^^ (folded words (index - 1) * 1566083941)) -
          UInt32.ofNat index
      turn (words.setIfInBounds index mixed) index)
    start).1

/-- The 32-bit words of a number, the least significant first; zero has one word. -/
def wordsOf (number : Nat) : Array UInt32 :=
  let count := max 1 ((number.log2 + 32) / 32)
  (Array.range count).map fun index => UInt32.ofNat (number >>> (32 * index))

/-- The stream that starts from an integer. -/
def ofSeed (seed : Int) : Mersenne :=
  let mixed := mixAgain (mixKey (wordsOf seed.natAbs) (initialWords 19650218))
  { words := mixed.setIfInBounds 0 0x80000000, given := stateSize }

/-- Renews all words of the state. -/
def renew (words : Array UInt32) : Array UInt32 :=
  stateSize.fold
    (fun index _ words =>
      let joined :=
        (word words index &&& 0x80000000) |||
          (word words ((index + 1) % stateSize) &&& 0x7fffffff)
      let twist : UInt32 := if joined &&& 1 = 0 then 0 else 0x9908b0df
      words.setIfInBounds index
        (word words ((index + lag) % stateSize) ^^^ (joined >>> 1) ^^^ twist))
    words

/-- Spreads the bits of a word before it is given out. -/
def temper (start : UInt32) : UInt32 :=
  let first := start ^^^ (start >>> 11)
  let second := first ^^^ ((first <<< 7) &&& 0x9d2c5680)
  let third := second ^^^ ((second <<< 15) &&& 0xefc60000)
  third ^^^ (third >>> 18)

/-- The next word of the stream. -/
def next : StateM Mersenne UInt32 := fun state =>
  let ready :=
    if state.given < stateSize then
      state
    else
      { words := renew state.words, given := 0 }
  (temper (word ready.words ready.given), { ready with given := ready.given + 1 })

/-- A number of so many bits; whole words come first and are less significant. -/
def bits (count : Nat) : StateM Mersenne Nat :=
  go (count / 32) 0 0
where
  /-- Draws whole words, then what is left. -/
  go : Nat → Nat → Nat → StateM Mersenne Nat
    | 0, shift, number => do
        if count % 32 = 0 then
          return number
        else
          let drawn ← next
          return number + ((drawn.toNat >>> (32 - count % 32)) <<< shift)
    | words + 1, shift, number => do
        let drawn ← next
        go words (shift + 32) (number + (drawn.toNat <<< shift))

/-- The number of refusals in a row after which a draw is cut short. -/
def refusalLimit : Nat :=
  4096

/-- A number below a positive bound. -/
def below (bound : Nat) : StateM Mersenne Nat :=
  go refusalLimit
where
  /-- Draws until a number is accepted or no refusal is left. -/
  go : Nat → StateM Mersenne Nat
    | 0 => return 0
    | refusals + 1 => do
        let drawn ← bits (bound.log2 + 1)
        if drawn < bound then return drawn else go refusals

/-- The greatest length at which positions are always taken from a pool. -/
def poolLimit (count : Nat) : Nat :=
  if 5 < count then 21 + powerAbove (3 * count) else 21
where
  /-- The least power of four that is not below a number. -/
  powerAbove (number : Nat) : Nat :=
    ((List.range (number.log2 + 1)).map (Nat.pow 4)).find? (number ≤ ·) |>.getD 0

/--
Draws positions from a pool of those that are left: the position drawn is replaced
by the last one of the pool.
-/
def fromPool : Nat → Array Nat → StateM Mersenne (List Nat)
  | 0, _ => return []
  | count + 1, pool => do
      let drawn ← below pool.size
      let rest ← fromPool count ((pool.setIfInBounds drawn (pool.getD (pool.size - 1) 0)).pop)
      return pool.getD drawn 0 :: rest

/-- A position that has not been taken, by refusal. -/
def untaken (length : Nat) (taken : List Nat) : StateM Mersenne Nat :=
  go refusalLimit
where
  /-- Draws until a position is accepted or no refusal is left. -/
  go : Nat → StateM Mersenne Nat
    | 0 => return ((List.range length).find? (!taken.contains ·)).getD 0
    | refusals + 1 => do
        let drawn ← below length
        if taken.contains drawn then go refusals else return drawn

/-- Draws positions from a long sequence, each different from those before it. -/
def fromLong (length : Nat) : Nat → List Nat → StateM Mersenne (List Nat)
  | 0, _ => return []
  | count + 1, taken => do
      let drawn ← untaken length taken
      let rest ← fromLong length count (drawn :: taken)
      return drawn :: rest

end Mersenne

instance : RandomSource Mersenne where
  between? least greatest := do
    if least ≤ greatest then
      let drawn ← Mersenne.below (greatest - least + 1).toNat
      return some (least + drawn)
    else
      return none
  position? length := do
    if length = 0 then
      return none
    else
      let drawn ← Mersenne.below length
      return some drawn
  positions? length count := do
    if length < count then
      return none
    else if length ≤ Mersenne.poolLimit count then
      let drawn ← Mersenne.fromPool count (Array.range length)
      return some drawn
    else
      let drawn ← Mersenne.fromLong length count []
      return some drawn

end GrammarCorpus
