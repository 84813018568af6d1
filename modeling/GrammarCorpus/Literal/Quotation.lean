import GrammarCorpus.Literal.Lexeme
import GrammarCorpus.Text.CharacterName

namespace GrammarCorpus

/-!
# Quotations

A quotation holds a text or bytes between quotes. Letters in front tell which: bytes,
raw text, in which a backslash is a character like any other, or text with insertions.

An escape begins with a backslash. In a text, `x`, `u` and `U` want so many hexadecimal
digits, and `N` a name in braces; in bytes `x` alone wants digits. The places of wrong
escapes are counted in the ASCII spelling of a text, where other characters are escapes
themselves.
-/

namespace Literal

/-- What a quotation lexeme consists of. -/
structure Quotation where
  isBytes : Bool
  isRaw : Bool
  hasInsertions : Bool
  /-- What stands between the quotes. -/
  body : List Char
deriving DecidableEq, Repr

namespace Quotation

/-- Takes the lexeme of a quotation apart. -/
def ofLexeme (lexeme : Lexeme) : Quotation :=
  let characters := lexeme.text.toList
  let marks := (characters.takeWhile (!isQuote ·)).map Char.toLower
  let quoted := characters.drop marks.length
  let isLong := 6 ≤ quoted.length && (quoted.take 3).all (some · = quoted.head?)
  let width := if isLong then 3 else 1
  { isBytes := marks.contains 'b'
    isRaw := marks.contains 'r'
    hasInsertions := marks.contains 'f'
    body := (quoted.drop width).take (quoted.length - 2 * width) }

end Quotation

/-- The escape of a character that gives its code point. -/
def longEscape (character : Char) : List Char :=
  ['\\', 'U'] ++ (Text.hexadecimal 8 character.toNat).toList

/-- A backslash as an escape. -/
def backslashEscape : List Char :=
  "\\u005c".toList

/-- The ASCII spelling of a text with escapes. -/
def asciiSpelling : List Char → List Char
  | [] => []
  | ['\\'] => backslashEscape
  | '\\' :: next :: rest =>
      if isAscii next then '\\' :: next :: asciiSpelling rest
      else backslashEscape ++ longEscape next ++ asciiSpelling rest
  | character :: rest =>
      (if isAscii character then [character] else longEscape character) ++ asciiSpelling rest

/-- The number of a hexadecimal digit. -/
def hexDigit? (character : Char) : Option Nat :=
  if character.isDigit then some (character.toNat - '0'.toNat)
  else if 'a' ≤ character.toLower && character.toLower ≤ 'f' then
    some (character.toLower.toNat - 'a'.toNat + 10)
  else none

/-- The letters that want hexadecimal digits behind them, with the number of digits. -/
def digitEscapes : List (Char × Nat) :=
  [('x', 2), ('u', 4), ('U', 8)]

/-- What is said of an escape with too few digits. -/
def tooFewDigits (letter : Char) (width : Nat) : String :=
  "truncated \\" ++ String.ofList (letter :: List.replicate width 'X') ++ " escape"

/-- Checks the digits behind the letter of an escape at a position. -/
def checkDigits (position : Nat) (letter : Char) (width : Nat) (rest : List Char) :
    Except Mistake Unit :=
  let digits := (rest.take width).takeWhile fun character => (hexDigit? character).isSome
  let last := position + 1 + digits.length
  let number := digits.foldl
    (fun value digit => 16 * value + (hexDigit? digit).getD 0) 0
  if digits.length < width then
    .error (.badEscape position last (tooFewDigits letter width))
  else if number > 0x10ffff then
    .error (.badEscape position last "illegal Unicode character")
  else
    .ok ()

/-- Whether a character does not end a name in braces. -/
def isInBraces (character : Char) : Bool :=
  character ≠ '\x7d'

/-- Checks the name behind the letter of an escape at a position. -/
def checkName (position : Nat) (rest : List Char) : Except Mistake Unit :=
  match rest with
  | '{' :: named =>
      let name := named.takeWhile isInBraces
      if name.length = named.length || name = [] then
        .error
          (.badEscape position (position + 2 + name.length) "malformed \\N character escape")
      else if Text.isCharacterName name then
        .ok ()
      else
        .error
          (.badEscape position (position + 3 + name.length) "unknown Unicode character name")
  | _ => .error (.badEscape position (position + 1) "malformed \\N character escape")

/-- Checks the escapes in the ASCII spelling of a text from a position on. -/
def checkEscapesFrom (position : Nat) : List Char → Except Mistake Unit
  | '\\' :: letter :: rest => do
      match digitEscapes.lookup letter with
      | some width => checkDigits position letter width rest
      | none => if letter = 'N' then checkName position rest
      checkEscapesFrom (position + 2) rest
  | _ :: rest => checkEscapesFrom (position + 1) rest
  | [] => .ok ()

/-- Checks the escapes in a text. -/
def checkEscapes (characters : List Char) : Except Mistake Unit :=
  checkEscapesFrom 0 (asciiSpelling characters)

/-- Checks the escapes in bytes from a position on. -/
def checkByteEscapes (position : Nat) : List Char → Except Mistake Unit
  | '\\' :: 'x' :: rest =>
      if ((rest.take 2).filterMap hexDigit?).length < 2 then
        .error (.badByteEscape position)
      else
        checkByteEscapes (position + 2) rest
  | '\\' :: _ :: rest => checkByteEscapes (position + 2) rest
  | _ :: rest => checkByteEscapes (position + 1) rest
  | [] => .ok ()

/-- Checks what a quotation without insertions holds. -/
def Quotation.check (quotation : Quotation) : Except Mistake Unit := do
  if quotation.isBytes && !quotation.body.all isAscii then
    throw .bytesNotAscii
  if !quotation.isRaw then
    if quotation.isBytes then checkByteEscapes 0 quotation.body
    else checkEscapes quotation.body

example :
    (checkEscapes "\\x41\\n\\u00e9".toList).toOption = some () ∧
      (checkEscapes "é\\x4".toList).toOption = none := by
  decide +kernel

end Literal

end GrammarCorpus
