import GrammarCorpus.Text.Scan

namespace GrammarCorpus

/-!
# Reading bytes as text

Files have to be valid UTF-8, or they cannot be read. What an engine prints is
always read: every maximal part that belongs to no character becomes one
replacement character. In both cases the line ends of other systems can be turned
into line feeds, which `unifyLineEnds` does.
-/

namespace Text

/-- Turns a carriage return, with a line feed behind it or not, into a line feed. -/
def unifyLineEnds : List Char → List Char
  | [] => []
  | '\r' :: '\n' :: rest => '\n' :: unifyLineEnds rest
  | '\r' :: rest => '\n' :: unifyLineEnds rest
  | character :: rest => character :: unifyLineEnds rest

/-- The text of valid UTF-8, with line feeds at all line ends. -/
def decode? (bytes : ByteArray) : Option String :=
  (String.fromUTF8? bytes).map fun text =>
    String.ofList (unifyLineEnds text.toList)

/-- The character that stands for bytes that belong to no character. -/
def replacement : Char :=
  Char.ofNat 0xfffd

/-- What a leading byte announces: its own bits and the bytes that have to follow. -/
structure Lead where
  bits : Nat
  /-- The least and the greatest byte at each place that follows. -/
  followers : List (Nat × Nat)

/-- Any byte that can stand behind the second place. -/
def follower : Nat × Nat :=
  (0x80, 0xbf)

/-- The leading byte of a character; overlong and surrogate forms have no second byte. -/
def lead? (byte : Nat) : Option Lead :=
  if byte < 0x80 then some ⟨byte, []⟩
  else if byte < 0xc2 then none
  else if byte < 0xe0 then some ⟨byte - 0xc0, [follower]⟩
  else if byte = 0xe0 then some ⟨0, [(0xa0, 0xbf), follower]⟩
  else if byte = 0xed then some ⟨0xd, [(0x80, 0x9f), follower]⟩
  else if byte < 0xf0 then some ⟨byte - 0xe0, [follower, follower]⟩
  else if byte = 0xf0 then some ⟨0, [(0x90, 0xbf), follower, follower]⟩
  else if byte < 0xf4 then some ⟨byte - 0xf0, [follower, follower, follower]⟩
  else if byte = 0xf4 then some ⟨4, [(0x80, 0x8f), follower, follower]⟩
  else none

/-- A character that has begun: its bits so far, and the places still to be filled. -/
structure Begun where
  bits : Nat
  places : List (Nat × Nat)

/-- Between two characters. -/
def Begun.nothing : Begun :=
  ⟨0, []⟩

/-- Begins a character with a byte. What is complete at once comes with it. -/
def begin (byte : Nat) : List Char × Begun :=
  match lead? byte with
  | none => ([replacement], .nothing)
  | some ⟨bits, []⟩ => ([Char.ofNat bits], .nothing)
  | some ⟨bits, places⟩ => ([], ⟨bits, places⟩)

/--
Takes one more byte. A byte that does not fit its place ends the character before
it, which is replaced; the byte itself may begin the next character.
-/
def Begun.take (begun : Begun) (byte : Nat) : List Char × Begun :=
  match begun.places with
  | [] => begin byte
  | place :: places =>
      if place.1 ≤ byte && byte ≤ place.2 then
        let bits := begun.bits * 0x40 + (byte - 0x80)
        if places.isEmpty then ([Char.ofNat bits], .nothing) else ([], ⟨bits, places⟩)
      else
        let (complete, next) := begin byte
        (replacement :: complete, next)

/-- Reads the bytes that follow a character that has begun. -/
def replacingFrom (begun : Begun) : List UInt8 → List Char
  | [] => if begun.places.isEmpty then [] else [replacement]
  | byte :: rest =>
      let (complete, next) := begun.take byte.toNat
      complete ++ replacingFrom next rest

/-- Reads any bytes; what belongs to no character is replaced. -/
def decodeReplacing (bytes : ByteArray) : List Char :=
  replacingFrom .nothing bytes.toList

example : replacingFrom .nothing [0xc3, 0xa9, 0xe2, 0x82, 0x41] = ['é', replacement, 'A'] := by
  decide +kernel

end Text

end GrammarCorpus
