import GrammarCorpus.Binary64.Basic
import GrammarCorpus.Text.Numeral

namespace GrammarCorpus

/-!
# Decimal text of binary64 numbers

A number is written with the fewest digits that read back as the same number,
and among those with the digits nearest to it. The point stands among the digits
when the leading digit has a weight from `10 ^ -4` to `10 ^ 15`; otherwise an
exponent of at least two digits follows. A positional text has at least one digit
behind the point.

Reading accepts digits with an optional point and exponent, single underscores
between digits, a sign, white space around the whole, and the names of infinity
and of the missing number in any case.
-/

namespace Binary64

/-- A quotient of natural numbers. -/
structure Quotient where
  numerator : Nat
  denominator : Nat

namespace Quotient

/-- Multiplies a quotient by a power of a base. -/
def scale (value : Quotient) (base : Nat) (exponent : Int) : Quotient :=
  if 0 ≤ exponent then
    { value with numerator := value.numerator * base.pow exponent.toNat }
  else
    { value with denominator := value.denominator * base.pow (-exponent).toNat }

/-- Whether the first quotient lies below the second. -/
def less (left right : Quotient) : Bool :=
  left.numerator * right.denominator < right.numerator * left.denominator

end Quotient

/-- The decimal digits of a number, the most significant first. -/
def decimalDigits (number : Nat) : List Char :=
  Nat.toDigits 10 number

/-- The power of ten just above a positive quotient. -/
def decimalMagnitude (value : Quotient) : Int :=
  let estimate : Int :=
    ((decimalDigits value.numerator).length : Int) -
      (decimalDigits value.denominator).length
  if value.less (Quotient.scale ⟨1, 1⟩ 10 estimate) then estimate else estimate + 1

/--
The bounds of the real numbers that are rounded to a positive finite number, in
quarters of its unit. Below a power of two the unit is half as large.
-/
def neighbourhood (significand : Nat) (exponent : Int) : Nat × Nat :=
  let below := if significand = leastNormal && leastExponent < exponent then 1 else 2
  (4 * significand - below, 4 * significand + 2)

/-- A natural number times a power of ten. -/
structure Decimal where
  coefficient : Nat
  exponent : Int

/--
The best multiple of a power of ten inside the neighbourhood of a number. The
number lies between two neighbours on that grid; no other grid point is better.
-/
def decimalAt?
    (significand : Nat)
    (exponent unit : Int) :
    Option Decimal :=
  let onGrid (quarters : Nat) : Quotient :=
    ((Quotient.mk quarters 1).scale 2 (exponent - 2)).scale 10 (-unit)
  let bounds := neighbourhood significand exponent
  let inside (candidate : Nat) : Bool :=
    let point : Quotient := ⟨candidate, 1⟩
    if significand % 2 = 0 then
      !point.less (onGrid bounds.1) && !(onGrid bounds.2).less point
    else
      (onGrid bounds.1).less point && point.less (onGrid bounds.2)
  let value := onGrid (4 * significand)
  let lower := value.numerator / value.denominator
  match inside lower, inside (lower + 1) with
  | true, true => some ⟨roundDiv value.numerator value.denominator, unit⟩
  | true, false => some ⟨lower, unit⟩
  | false, true => some ⟨lower + 1, unit⟩
  | false, false => none

/-- The shortest decimal of a positive finite number; seventeen digits always do. -/
def shortest (significand : Nat) (exponent : Int) : Decimal :=
  let magnitude := decimalMagnitude ((Quotient.mk significand 1).scale 2 exponent)
  let units := (List.range 17).map fun length => magnitude - (length + 1 : Nat)
  (units.findSome? (decimalAt? significand exponent)).getD ⟨significand, 0⟩

/-- The least magnitude written with an exponent behind it. -/
def positionalLimit : Int :=
  16

/-- Writes digits with the point among them, or with an exponent. -/
def layout (digits : List Char) (magnitude : Int) : String :=
  if -4 < magnitude && magnitude ≤ positionalLimit then
    if magnitude ≤ 0 then
      "0." ++ String.ofList (List.replicate (-magnitude).toNat '0' ++ digits)
    else
      let whole := digits.take magnitude.toNat
      let filled := whole ++ List.replicate (magnitude.toNat - whole.length) '0'
      let fraction := digits.drop magnitude.toNat
      String.ofList filled ++ "." ++
        String.ofList (if fraction.isEmpty then ['0'] else fraction)
  else
    let weight := magnitude - 1
    let weightDigits := decimalDigits weight.natAbs
    let mantissa :=
      match digits with
      | first :: second :: rest => first :: '.' :: second :: rest
      | short => short
    String.ofList mantissa ++ (if weight < 0 then "e-" else "e+") ++
      String.ofList (List.replicate (2 - weightDigits.length) '0' ++ weightDigits)

/-- The written form of a decimal, without zeros at the end of its coefficient. -/
def Decimal.text (decimal : Decimal) : String :=
  let digits := decimalDigits decimal.coefficient
  layout (digits.reverse.dropWhile (· = '0')).reverse
    (decimal.exponent + digits.length)

/-- The shortest text that reads back as the same number. -/
def text : Binary64 → String
  | .notANumber => "nan"
  | .infinite negative => (if negative then "-" else "") ++ "inf"
  | .finite negative significand exponent =>
      (if negative then "-" else "") ++
        if significand = 0 then "0.0" else (shortest significand exponent).text

/--
The number nearest to a decimal. Decimals far beyond the format on either side
are not expanded into digits.
-/
def ofDecimal (negative : Bool) (decimal : Decimal) : Binary64 :=
  let magnitude := decimal.exponent + (decimalDigits decimal.coefficient).length
  if decimal.coefficient = 0 || magnitude < -400 then
    nearest negative 0 1
  else if 400 < magnitude then
    .infinite negative
  else
    let value := (Quotient.mk decimal.coefficient 1).scale 10 decimal.exponent
    nearest negative value.numerator value.denominator

/-- The number nearest to what is left when so many places behind the point are kept. -/
def roundedTo (places : Nat) : Binary64 → Binary64
  | .finite negative significand exponent =>
      let scaled := (Quotient.mk (significand * Nat.pow 10 places) 1).scale 2 exponent
      nearest negative (roundDiv scaled.numerator scaled.denominator) (Nat.pow 10 places)
  | other => other

/-- The digits of one side of the point, which may be empty. -/
def sideDigits? : List Char → Option (List Nat)
  | [] => some []
  | characters => Text.digits? characters

/-- A decimal without an exponent: digits on at least one side of an optional point. -/
def fixed? (characters : List Char) : Option Decimal := do
  let whole ← sideDigits? (characters.takeWhile (· ≠ '.'))
  let fraction ← sideDigits? ((characters.dropWhile (· ≠ '.')).drop 1)
  if whole.isEmpty && fraction.isEmpty then
    none
  else
    return ⟨Text.ofDigits (whole ++ fraction), -fraction.length⟩

/-- Whether a character introduces an exponent. -/
def isExponentMark (character : Char) : Bool :=
  character = 'e' || character = 'E'

/-- A decimal with an optional exponent. -/
def decimal? (characters : List Char) : Option Decimal := do
  let mantissa ← fixed? (characters.takeWhile fun character => !isExponentMark character)
  match characters.dropWhile fun character => !isExponentMark character with
  | [] => return mantissa
  | _ :: rest =>
      let (negative, body) := Text.dropSign rest
      let values ← Text.digits? body
      let shift : Int := Text.ofDigits values
      return { mantissa with
        exponent := mantissa.exponent + if negative then -shift else shift }

/-- The number written by a text. -/
def ofText? (written : String) : Option Binary64 :=
  let (negative, body) := Text.dropSign (Text.trimWhiteSpace written.toList)
  let name := String.ofList (body.map Char.toLower)
  if name = "nan" then
    some .notANumber
  else if name = "inf" || name = "infinity" then
    some (.infinite negative)
  else
    (decimal? body).map (ofDecimal negative)

end Binary64

end GrammarCorpus
