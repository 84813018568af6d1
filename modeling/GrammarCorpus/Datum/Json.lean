import GrammarCorpus.Datum

namespace GrammarCorpus

/-!
# Data as JSON

Reading keeps numbers with a point or an exponent apart from integers, and takes the
names of the infinities and of the missing number. Writing uses ASCII alone: other
characters are written by their UTF-16 units.
-/

namespace Json

/-- Whether a character may stand between the parts of a text. -/
def isSpace (character : Char) : Bool :=
  character = ' ' || character = '\n' || character = '\t' || character = '\r'

/-- The text from its first part on. -/
def skipSpace (characters : List Char) : List Char :=
  characters.dropWhile isSpace

/-- The value of a hexadecimal digit. -/
def hexDigit? (character : Char) : Option Nat :=
  if character.isDigit then some (character.toNat - 0x30)
  else if 'a' ≤ character ∧ character ≤ 'f' then some (character.toNat - 0x57)
  else if 'A' ≤ character ∧ character ≤ 'F' then some (character.toNat - 0x37)
  else none

/-- The number written by hexadecimal digits. -/
def hex? (characters : List Char) : Option Nat := do
  let digits ← characters.mapM hexDigit?
  return digits.foldl (fun number digit => 16 * number + digit) 0

/-- What a letter behind a backslash stands for. -/
def escaped? : Char → Option Nat
  | 'n' => some 0x0a
  | 't' => some 0x09
  | 'r' => some 0x0d
  | 'b' => some 0x08
  | 'f' => some 0x0c
  | '"' => some 0x22
  | '\\' => some 0x5c
  | '/' => some 0x2f
  | _ => none

/--
The code points up to the closing quote, with escaped units as they are, and what
follows the quote. Those before are kept in reverse.
-/
def unitsFrom (units : List Nat) : List Char → Option (List Nat × List Char)
  | [] => none
  | '"' :: rest => some (units.reverse, rest)
  | '\\' :: 'u' :: first :: second :: third :: fourth :: rest =>
      match hex? [first, second, third, fourth] with
      | some unit => unitsFrom (unit :: units) rest
      | none => none
  | '\\' :: letter :: rest =>
      match escaped? letter with
      | some unit => unitsFrom (unit :: units) rest
      | none => none
  | character :: rest => unitsFrom (character.toNat :: units) rest

/-- Joins pairs of surrogate units; characters before are kept in reverse. -/
def joinUnits (characters : List Char) : List Nat → List Char
  | high :: low :: rest =>
      if 0xd800 ≤ high ∧ high < 0xdc00 ∧ 0xdc00 ≤ low ∧ low < 0xe000 then
        let point := 0x10000 + (high - 0xd800) * 0x400 + (low - 0xdc00)
        joinUnits (Char.ofNat point :: characters) rest
      else
        joinUnits (Char.ofNat high :: characters) (low :: rest)
  | [unit] => (Char.ofNat unit :: characters).reverse
  | [] => characters.reverse

/-- Reads a text whose opening quote has been read. -/
def text? (characters : List Char) : Option (String × List Char) :=
  (unitsFrom [] characters).map fun (units, rest) =>
    (String.ofList (joinUnits [] units), rest)

/-- Whether a character may belong to a number or to a name of a value. -/
def isWordPart (character : Char) : Bool :=
  character.isAlphanum || character = '+' || character = '-' || character = '.'

/-- The value that a word stands for. -/
def word? (word : String) : Option Datum :=
  if word = "null" then some .nothing
  else if word = "true" then some (.truth true)
  else if word = "false" then some (.truth false)
  else
    match word.toInt? with
    | some value => some (.integer value)
    | none => (Binary64.ofText? word).map .real

mutual

/-- Reads a value. The depth of what is read and its length are limited by the fuel. -/
def value? : Nat → List Char → Option (Datum × List Char)
  | 0, _ => none
  | fuel + 1, characters =>
      match skipSpace characters with
      | '"' :: rest => (text? rest).map fun (text, rest) => (.text text, rest)
      | '[' :: rest =>
          match skipSpace rest with
          | ']' :: rest => some (.list [], rest)
          | rest => items? fuel [] rest
      | '\x7b' :: rest =>
          match skipSpace rest with
          | '\x7d' :: rest => some (.record [], rest)
          | rest => fields? fuel [] rest
      | rest =>
          (word? (String.ofList (rest.takeWhile isWordPart))).map fun value =>
            (value, rest.dropWhile isWordPart)

/-- Reads the items of a list; those before are kept in reverse. -/
def items? : Nat → List Datum → List Char → Option (Datum × List Char)
  | 0, _, _ => none
  | fuel + 1, items, characters =>
      match value? fuel characters with
      | none => none
      | some (item, rest) =>
          match skipSpace rest with
          | ',' :: rest => items? fuel (item :: items) rest
          | ']' :: rest => some (.list (item :: items).reverse, rest)
          | _ => none

/-- Reads the fields of a record; those before are kept in reverse. -/
def fields? : Nat → List (String × Datum) → List Char → Option (Datum × List Char)
  | 0, _, _ => none
  | fuel + 1, fields, characters =>
      match skipSpace characters with
      | '"' :: rest =>
          match text? rest with
          | none => none
          | some (key, rest) =>
              match skipSpace rest with
              | ':' :: rest =>
                  match value? fuel rest with
                  | none => none
                  | some (value, rest) =>
                      match skipSpace rest with
                      | ',' :: rest => fields? fuel ((key, value) :: fields) rest
                      | '\x7d' :: rest =>
                          some (.record ((key, value) :: fields).reverse, rest)
                      | _ => none
              | _ => none
      | _ => none

end

/-- A UTF-16 unit, written by its number. -/
def writtenUnit (unit : Nat) : String :=
  "\\u" ++ Text.hexadecimal 4 unit

/-- A character inside quotes. -/
def written (character : Char) : String :=
  let point := character.toNat
  if character = '"' then "\\\""
  else if character = '\\' then "\\\\"
  else if 0x20 ≤ point ∧ point < 0x7f then String.ofList [character]
  else if point < 0x10000 then writtenUnit point
  else
    writtenUnit (0xd800 + (point - 0x10000) / 0x400) ++
      writtenUnit (0xdc00 + (point - 0x10000) % 0x400)

/-- A text between quotes. -/
def writtenText (text : String) : String :=
  "\"" ++ String.join (text.toList.map written) ++ "\""

end Json

namespace Datum

/-- Reads data from a text that holds nothing else. -/
def ofJson? (text : String) : Option Datum := do
  let characters := text.toList
  let (datum, rest) ← Json.value? (characters.length + 1) characters
  if (Json.skipSpace rest).isEmpty then some datum else none

mutual

/-- Writes data. -/
def json : Datum → String
  | .nothing => "null"
  | .truth true => "true"
  | .truth false => "false"
  | .integer value => toString value
  | .real value => value.text
  | .text value => Json.writtenText value
  | .list items => "[" ++ ",".intercalate (jsonItems items) ++ "]"
  | .record fields => "\x7b" ++ ",".intercalate (jsonFields fields) ++ "\x7d"

/-- Writes the items of a list. -/
def jsonItems : List Datum → List String
  | [] => []
  | item :: items => item.json :: jsonItems items

/-- Writes the fields of a record. -/
def jsonFields : List (String × Datum) → List String
  | [] => []
  | (key, value) :: fields => (Json.writtenText key ++ ":" ++ value.json) :: jsonFields fields

end

end Datum

end GrammarCorpus
