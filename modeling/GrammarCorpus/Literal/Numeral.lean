import GrammarCorpus.Literal.Mistake

namespace GrammarCorpus

/-!
# Numbers in literals

A number is read from the characters in front of which it stands; what is left over is
the result. Digits are decimal ones, or those of another base behind a zero and a letter;
single underscores can stand between them. A decimal number can have a fraction and an
exponent, and it is imaginary if it ends in the letter j.

No ASCII letter may follow a number, unless a word begins there that can follow an
expression.
-/

namespace Literal

/-- Whether a character can stand in a name as far as its code point tells. -/
def isNameLike (character : Char) : Bool :=
  character.isAlphanum || character = '_' || 0x80 ≤ character.toNat

/-- Whether some characters begin with a digit. -/
def digitFollows (rest : List Char) : Bool :=
  (rest.head?).any Char.isDigit

/-- The words that can follow an expression, apart from short ones that begin with i. -/
def followingWords : List (List Char) :=
  ["and", "else", "for", "or", "not"].map String.toList

/-- Whether a word begins that can follow an expression. -/
def wordFollows : List Char → Bool
  | 'i' :: second :: _ => ['f', 'n', 's'].contains second
  | rest =>
      followingWords.any fun word =>
        word.isPrefixOf rest && !((rest.drop word.length).head?).any isNameLike

/-- Whether a character is in ASCII. -/
def isAscii (character : Char) : Bool :=
  character.toNat < 0x80

/-- Ends a number of a style in front of some characters. -/
def endNumber (style : NumberStyle) (rest : List Char) : Except Mistake (List Char) :=
  let touches (character : Char) : Bool := isNameLike character && isAscii character
  if wordFollows rest || !(rest.head?).any touches then .ok rest
  else .error (.badNumber style)

/-- Reads further digits of a decimal number. -/
def readDigits : List Char → Except Mistake (List Char)
  | [] => .ok []
  | character :: rest =>
      if character.isDigit then readDigits rest
      else if character = '_' then
        if digitFollows rest then readDigits rest else .error (.badNumber .decimal)
      else .ok (character :: rest)

/-- Reads the j of an imaginary number, if there is one, and ends the number. -/
def readImaginary : List Char → Except Mistake (List Char)
  | 'j' :: rest | 'J' :: rest => endNumber .imaginary rest
  | rest => endNumber .decimal rest

/-- Reads the exponent, if there is one, and ends the number. -/
def readExponent (rest : List Char) : Except Mistake (List Char) :=
  match rest with
  | [] => .ok []
  | mark :: further =>
      if mark ≠ 'e' && mark ≠ 'E' then
        readImaginary rest
      else if digitFollows further then do
        readImaginary (← readDigits further)
      else
        match further with
        | '+' :: digits | '-' :: digits =>
            if digitFollows digits then do
              readImaginary (← readDigits digits)
            else
              .error (.badNumber .decimal)
        | _ => endNumber .decimal rest

/-- Reads the digits behind the point and all that follows. -/
def readFraction (rest : List Char) : Except Mistake (List Char) := do
  readExponent (← if digitFollows rest then readDigits rest else .ok rest)

/-- Whether a character is a digit of a style. -/
def isDigitOf (style : NumberStyle) (character : Char) : Bool :=
  match style with
  | .binary => character = '0' || character = '1'
  | .octal => '0' ≤ character && character ≤ '7'
  | .hexadecimal => character.isDigit || ('a' ≤ character.toLower && character.toLower ≤ 'f')
  | .decimal | .imaginary => character.isDigit

/--
Reads digits of a base and ends the number. The flags tell whether an underscore may
follow, and whether a digit has to.
-/
def readInBase (style : NumberStyle) (mayJoin needsDigit : Bool) :
    List Char → Except Mistake (List Char)
  | [] => if needsDigit then .error (.badNumber style) else .ok []
  | character :: rest =>
      if isDigitOf style character then readInBase style true false rest
      else if character = '_' && mayJoin then readInBase style false true rest
      else if character.isDigit then .error (.badDigit character style)
      else if needsDigit then .error (.badNumber style)
      else endNumber style (character :: rest)

/-- Reads zeros at the beginning of a decimal number. -/
def readZeros : List Char → Except Mistake (List Char)
  | '0' :: rest => readZeros rest
  | '_' :: rest => if digitFollows rest then readZeros rest else .error (.badNumber .decimal)
  | rest => .ok rest

/-- Reads a decimal number that begins with a zero. -/
def readFromZero (rest : List Char) : Except Mistake (List Char) := do
  let rest ← readZeros rest
  let hasFurther := digitFollows rest
  let rest ← if hasFurther then readDigits rest else .ok rest
  match rest with
  | '.' :: fraction => readFraction fraction
  | 'e' :: _ | 'E' :: _ | 'j' :: _ | 'J' :: _ => readExponent rest
  | _ => if hasFurther then .error .leadingZeros else endNumber .decimal rest

/-- Reads a number, which begins with a digit or with a point and a digit. -/
def readNumber : List Char → Except Mistake (List Char)
  | '0' :: 'x' :: rest | '0' :: 'X' :: rest => readInBase .hexadecimal true true rest
  | '0' :: 'o' :: rest | '0' :: 'O' :: rest => readInBase .octal true true rest
  | '0' :: 'b' :: rest | '0' :: 'B' :: rest => readInBase .binary true true rest
  | '0' :: rest => readFromZero rest
  | '.' :: fraction => readFraction fraction
  | rest => do
      match ← readDigits rest with
      | '.' :: fraction => readFraction fraction
      | rest => readExponent rest

example :
    (readNumber "1_0.5e-3j)".toList).toOption = some [')'] ∧
      (readNumber "0x_fg".toList).toOption = none := by
  decide +kernel

end Literal

end GrammarCorpus
