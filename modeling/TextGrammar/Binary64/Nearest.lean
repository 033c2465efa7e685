import TextGrammar.Binary64.Exact

/-!
The double nearest to a quotient of two natural numbers, of two neighbours at
the same distance the one with the even significand. The bits of the doubles
that are not negative increase with their values, so a significand that is
rounded up to the next power of two carries into the exponent by itself.
-/

namespace TextGrammar.Binary64

/-- The quotient rounded to a whole number, a half to the even neighbour. -/
def roundQuotient (numerator denominator : Nat) : Nat :=
  let quotient := numerator / denominator
  let twice := 2 * (numerator % denominator)
  if twice < denominator then quotient
  else if denominator < twice then quotient + 1
  else quotient + quotient % 2

/-- The greatest power of two, as its exponent, that is not above the quotient. -/
def binaryExponent (numerator denominator : Nat) : Int :=
  let estimate : Int := (numerator.log2 : Int) - denominator.log2
  let reached :=
    if 0 ≤ estimate then denominator * Nat.pow 2 estimate.toNat ≤ numerator
    else denominator ≤ numerator * Nat.pow 2 (-estimate).toNat
  if reached then estimate else estimate - 1

/-- The bits of the double nearest to the quotient, or nothing when that would be infinite. -/
def nearestBits? (numerator denominator : Nat) : Option Nat :=
  if numerator = 0 then some 0
  else
    let exponent := max (binaryExponent numerator denominator - 52) leastExponent
    let significand :=
      if 0 ≤ exponent then roundQuotient numerator (denominator * Nat.pow 2 exponent.toNat)
      else roundQuotient (numerator * Nat.pow 2 (-exponent).toNat) denominator
    let bits := (exponent - leastExponent).toNat * Nat.pow 2 52 + significand
    if bits < infinityBits then some bits else none

def nearest? (negative : Bool) (numerator denominator : Nat) : Option Float :=
  (nearestBits? numerator denominator).map (ofMagnitude negative)

/-- The double nearest to a whole number; a number too large for a double has none. -/
def ofInt? (number : Int) : Option Float := nearest? (number < 0) number.natAbs 1

def infinity (negative : Bool) : Float := ofMagnitude negative infinityBits

/-- Beyond this many places a decimal number is certainly zero or infinite. -/
def decimalHorizon : Int := 400

/-- The double nearest to `coefficient` times ten to the `exponent`, infinity included. -/
def ofDecimal (negative : Bool) (coefficient : Nat) (exponent : Int) : Float :=
  let magnitude : Int := (Nat.toDigits 10 coefficient).length + exponent
  if coefficient = 0 || magnitude < -decimalHorizon then ofMagnitude negative 0
  else if decimalHorizon < magnitude then infinity negative
  else
    let rounded :=
      if 0 ≤ exponent then nearest? negative (coefficient * Nat.pow 10 exponent.toNat) 1
      else nearest? negative coefficient (Nat.pow 10 (-exponent).toNat)
    rounded.getD (infinity negative)

end TextGrammar.Binary64
