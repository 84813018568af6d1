namespace GrammarCorpus

/-!
# Blank characters

Two classes of empty space are told apart. White space is the Unicode property
White_Space; it may stand around a numeral. Blank are, beside white space, the
four information separators from U+001C to U+001F; a text of blank characters
counts as empty.
-/

namespace Text

/-- The ranges of white space, both ends included, in increasing order. -/
def whiteSpaceRanges : List (Nat × Nat) :=
  [(0x09, 0x0d), (0x20, 0x20), (0x85, 0x85), (0xa0, 0xa0), (0x1680, 0x1680),
    (0x2000, 0x200a), (0x2028, 0x2029), (0x202f, 0x202f), (0x205f, 0x205f),
    (0x3000, 0x3000)]

/-- Whether a character has the property White_Space. -/
def isWhiteSpace (character : Char) : Bool :=
  whiteSpaceRanges.any fun range =>
    range.1 ≤ character.toNat && character.toNat ≤ range.2

/-- Whether a character counts as empty: white space or an information separator. -/
def isBlank (character : Char) : Bool :=
  isWhiteSpace character ||
    (0x1c ≤ character.toNat && character.toNat ≤ 0x1f)

/-- The characters without the blank ones in front. -/
def trimLeft (characters : List Char) : List Char :=
  characters.dropWhile isBlank

/-- The characters without the white space at either end. -/
def trimWhiteSpace (characters : List Char) : List Char :=
  ((characters.dropWhile isWhiteSpace).reverse.dropWhile isWhiteSpace).reverse

end Text

end GrammarCorpus
