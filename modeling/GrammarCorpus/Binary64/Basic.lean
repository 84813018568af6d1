namespace GrammarCorpus

/-!
# Numbers of the binary64 format

A finite number is a significand below `2 ^ 53` times a power of two that is not
below `2 ^ -1074`. Everything here is exact integer arithmetic. The main
definition is `Binary64.nearest`: the number of the format that is nearest to a
quotient, with ties going to the even significand.
-/

/-- A number of the binary64 format, an infinity, or no number. -/
inductive Binary64 where
  | finite (negative : Bool) (significand : Nat) (exponent : Int)
  | infinite (negative : Bool)
  | notANumber
deriving DecidableEq, Repr

namespace Binary64

/-- The integer nearest to a quotient; of two equally near ones, the even one. -/
def roundDiv (numerator denominator : Nat) : Nat :=
  let quotient := numerator / denominator
  let doubled := 2 * (numerator % denominator)
  if doubled < denominator then
    quotient
  else if denominator < doubled then
    quotient + 1
  else
    quotient + quotient % 2

/-- The greatest power of two that does not exceed a positive quotient. -/
def floorLog (numerator denominator : Nat) : Int :=
  let estimate : Int := (numerator.log2 : Int) - denominator.log2
  let reached :=
    if 0 ≤ estimate then
      denominator * Nat.pow 2 estimate.toNat ≤ numerator
    else
      denominator ≤ numerator * Nat.pow 2 (-estimate).toNat
  if reached then estimate else estimate - 1

/-- The least exponent of the format. -/
def leastExponent : Int :=
  -1074

/-- The greatest exponent of the format. -/
def greatestExponent : Int :=
  971

/-- The least significand of a number above the least exponent. -/
def leastNormal : Nat :=
  Nat.pow 2 52

/-- The number of the format nearest to a quotient with a positive denominator. -/
def nearest (negative : Bool) (numerator denominator : Nat) : Binary64 :=
  if numerator = 0 then
    .finite negative 0 leastExponent
  else
    let exponent := max (floorLog numerator denominator - 52) leastExponent
    let significand :=
      if 0 ≤ exponent then
        roundDiv numerator (denominator * Nat.pow 2 exponent.toNat)
      else
        roundDiv (numerator * Nat.pow 2 (-exponent).toNat) denominator
    -- Rounding may carry into a fifty-fourth bit, which is then a zero.
    let (significand, exponent) :=
      if significand = 2 * leastNormal then (leastNormal, exponent + 1)
      else (significand, exponent)
    if greatestExponent < exponent then
      .infinite negative
    else
      .finite negative significand exponent

/-- Whether a number is greater than a quotient with a positive denominator. -/
def exceeds (number : Binary64) (numerator denominator : Nat) : Bool :=
  match number with
  | .finite false significand exponent =>
      if 0 ≤ exponent then
        numerator < significand * Nat.pow 2 exponent.toNat * denominator
      else
        numerator * Nat.pow 2 (-exponent).toNat < significand * denominator
  | .infinite false => true
  | _ => false

end Binary64

end GrammarCorpus
