namespace GrammarCorpus

/-!
# Forms of small letters

Some characters of Unicode 14 are forms of the small letters of ASCII: raised, lowered,
wide, or in a style of mathematics. Names that differ only in such forms are the same.
-/

namespace Text

/-- The ranges of such characters, both ends included, with the letter of the first. -/
def smallLetterForms : List (Nat × Nat × Char) :=
  [(0xaa, 0xaa, 'a'), (0xba, 0xba, 'o'), (0x17f, 0x17f, 's'), (0x2b0, 0x2b0, 'h'),
    (0x2b2, 0x2b2, 'j'), (0x2b3, 0x2b3, 'r'), (0x2b7, 0x2b7, 'w'), (0x2b8, 0x2b8, 'y'),
    (0x2e1, 0x2e1, 'l'), (0x2e2, 0x2e2, 's'), (0x2e3, 0x2e3, 'x'), (0x1d43, 0x1d43, 'a'),
    (0x1d47, 0x1d47, 'b'), (0x1d48, 0x1d49, 'd'), (0x1d4d, 0x1d4d, 'g'), (0x1d4f, 0x1d4f, 'k'),
    (0x1d50, 0x1d50, 'm'), (0x1d52, 0x1d52, 'o'), (0x1d56, 0x1d56, 'p'), (0x1d57, 0x1d58, 't'),
    (0x1d5b, 0x1d5b, 'v'), (0x1d62, 0x1d62, 'i'), (0x1d63, 0x1d63, 'r'), (0x1d64, 0x1d65, 'u'),
    (0x1d9c, 0x1d9c, 'c'), (0x1da0, 0x1da0, 'f'), (0x1dbb, 0x1dbb, 'z'), (0x2071, 0x2071, 'i'),
    (0x207f, 0x207f, 'n'), (0x2090, 0x2090, 'a'), (0x2091, 0x2091, 'e'), (0x2092, 0x2092, 'o'),
    (0x2093, 0x2093, 'x'), (0x2095, 0x2095, 'h'), (0x2096, 0x2099, 'k'), (0x209a, 0x209a, 'p'),
    (0x209b, 0x209c, 's'), (0x210a, 0x210a, 'g'), (0x210e, 0x210e, 'h'), (0x2113, 0x2113, 'l'),
    (0x212f, 0x212f, 'e'), (0x2134, 0x2134, 'o'), (0x2139, 0x2139, 'i'), (0x2146, 0x2147, 'd'),
    (0x2148, 0x2149, 'i'), (0x2170, 0x2170, 'i'), (0x2174, 0x2174, 'v'), (0x2179, 0x2179, 'x'),
    (0x217c, 0x217c, 'l'), (0x217d, 0x217e, 'c'), (0x217f, 0x217f, 'm'), (0x2c7c, 0x2c7c, 'j'),
    (0xff41, 0xff5a, 'a'), (0x107a5, 0x107a5, 'q'), (0x1d41a, 0x1d433, 'a'),
    (0x1d44e, 0x1d454, 'a'), (0x1d456, 0x1d467, 'i'), (0x1d482, 0x1d49b, 'a'),
    (0x1d4b6, 0x1d4b9, 'a'), (0x1d4bb, 0x1d4bb, 'f'), (0x1d4bd, 0x1d4c3, 'h'),
    (0x1d4c5, 0x1d4cf, 'p'), (0x1d4ea, 0x1d503, 'a'), (0x1d51e, 0x1d537, 'a'),
    (0x1d552, 0x1d56b, 'a'), (0x1d586, 0x1d59f, 'a'), (0x1d5ba, 0x1d5d3, 'a'),
    (0x1d5ee, 0x1d607, 'a'), (0x1d622, 0x1d63b, 'a'), (0x1d656, 0x1d66f, 'a'),
    (0x1d68a, 0x1d6a3, 'a')]

/-- The small letter that a character is a form of, or the character itself. -/
def plainLetter (character : Char) : Char :=
  let point := character.toNat
  match smallLetterForms.find? fun (first, last, _) => first ≤ point && point ≤ last with
  | some (first, _, letter) => Char.ofNat (letter.toNat + (point - first))
  | none => character

example : ['ｓ', 'ᵉ', '𝗍', 'E'].map plainLetter = ['s', 'e', 't', 'E'] := by
  decide +kernel

end Text

end GrammarCorpus
