import GrammarCorpus.Text.CharacterNameList
import GrammarCorpus.Text.Ranges

namespace GrammarCorpus

/-!
# Names of characters

A character of Unicode 14 is called by its name or by another name that it has. Most
names are listed, and found whether their letters are small or not. The names of
ideographs end in the code point, and those of Hangul syllables are spelled from the
names of their letters.
-/

namespace Text

/-- The number that some small letters stand for in the list of names. -/
def sharedLength (letters : List Char) : Nat :=
  letters.foldl (fun sum letter => sum + (letter.toNat - 'a'.toNat)) 0

/-- Whether a name is in a part of the list, which stands behind another name. -/
def isListedBehind (name before : List Char) : Nat → List Char → Bool
  | 0, _ | _, [] => false
  | fuel + 1, list =>
      let rest := list.dropWhile Char.isLower
      let current :=
        before.take (sharedLength (list.takeWhile Char.isLower)) ++
          rest.takeWhile (!Char.isLower ·)
      current = name || isListedBehind name current fuel (rest.dropWhile (!Char.isLower ·))

/-- Whether a name is in the list. -/
def isListed (name : List Char) : Bool :=
  let list := (String.join characterNameList).toList
  isListedBehind name [] list.length list

/-- The number that is written in hexadecimal with large letters. -/
def codePoint? (digits : List Char) : Option Nat :=
  if digits.all fun digit => digit.isDigit || ('A' ≤ digit && digit ≤ 'F') then
    some (digits.foldl
      (fun number digit =>
        16 * number +
          (if digit.isDigit then digit.toNat - '0'.toNat else digit.toNat - 'A'.toNat + 10))
      0)
  else
    none

/-- What stands behind a beginning of a text. -/
def behind? (beginning : String) (text : List Char) : Option (List Char) :=
  if beginning.toList.isPrefixOf text then some (text.drop beginning.length) else none

/-- The ranges of unified ideographs, both ends included. -/
def unifiedRanges : List (Nat × Nat) :=
  [(0x3400, 0x4dbf), (0x4e00, 0x9fff), (0x20000, 0x2a6df), (0x2a700, 0x2b738),
    (0x2b740, 0x2b81d), (0x2b820, 0x2cea1), (0x2ceb0, 0x2ebe0), (0x30000, 0x3134a)]

/-- Whether a name is that of a unified ideograph. -/
def isUnifiedName (name : List Char) : Bool :=
  (behind? "CJK UNIFIED IDEOGRAPH-" name).any fun digits =>
    [4, 5].contains digits.length &&
      (codePoint? digits).any fun point => inRanges point unifiedRanges

/-- The beginnings of other names that end in the code point, with its ranges. -/
def numberedNames : List (String × List (Nat × Nat)) :=
  [("CJK COMPATIBILITY IDEOGRAPH-", [(0xf900, 0xfa6d), (0xfa70, 0xfad9), (0x2f800, 0x2fa1d)]),
    ("KHITAN SMALL SCRIPT CHARACTER-", [(0x18b00, 0x18cd5)]),
    ("NUSHU CHARACTER-", [(0x1b170, 0x1b2fb)])]

/-- Whether a name ends in the code point in the usual number of digits. -/
def isNumberedName (name : List Char) : Bool :=
  numberedNames.any fun (beginning, ranges) =>
    (behind? beginning name).any fun digits =>
      digits.head? ≠ some '0' &&
        (codePoint? digits).any fun point => inRanges point ranges

/-- The names of the letters that begin Hangul syllables. -/
def hangulInitials : List String :=
  ["G", "GG", "N", "D", "DD", "R", "M", "B", "BB", "S", "SS", "", "J", "JJ", "C", "K", "T",
    "P", "H"]

/-- The names of the vowels of Hangul syllables. -/
def hangulVowels : List String :=
  ["A", "AE", "YA", "YAE", "EO", "E", "YEO", "YE", "O", "WA", "WAE", "OE", "YO", "U", "WEO",
    "WE", "WI", "YU", "EU", "YI", "I"]

/-- The names of the letters that end Hangul syllables. -/
def hangulFinals : List String :=
  ["", "G", "GG", "GS", "N", "NJ", "NH", "D", "L", "LG", "LM", "LB", "LS", "LT", "LP", "LH",
    "M", "B", "BS", "S", "SS", "NG", "J", "C", "K", "T", "P", "H"]

/-- What stands behind the longest of several beginnings of a text. -/
def behindLongest? (beginnings : List String) (text : List Char) : Option (List Char) :=
  (beginnings.filterMap fun beginning => behind? beginning text).foldl
    (fun shortest rest =>
      match shortest with
      | none => some rest
      | some found => if rest.length < found.length then some rest else some found)
    none

/-- Whether a name is that of a Hangul syllable. -/
def isHangulName (name : List Char) : Bool :=
  let rest := do
    let letters ← behind? "HANGUL SYLLABLE " name
    let letters ← behindLongest? hangulInitials letters
    let letters ← behindLongest? hangulVowels letters
    behindLongest? hangulFinals letters
  rest = some []

/-- Whether a character is called by a name. -/
def isCharacterName (name : List Char) : Bool :=
  let large := name.map Char.toUpper
  isUnifiedName name || isHangulName name || isNumberedName large || isListed large

end Text

end GrammarCorpus
