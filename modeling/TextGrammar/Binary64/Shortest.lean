import TextGrammar.Binary64.Exact

/-!
The shortest decimal number that reads back as a given double. The numbers that
round to a double form an interval around it, whose ends belong to it when the
significand is even. For one digit, two digits and so on up to seventeen, the
two numbers of that many digits on either side of the double are tried.
-/

namespace TextGrammar.Binary64

/-- A positive double and the ends of its rounding interval, over one denominator. -/
structure Neighbourhood where
  value : Nat
  low : Nat
  high : Nat
  denominator : Nat
  closed : Bool

namespace Neighbourhood

/-- Below a power of two the doubles lie half as far apart as above it. -/
def ofExact (significand : Nat) (exponent : Int) : Neighbourhood :=
  let narrow := significand = Nat.pow 2 52 ∧ leastExponent < exponent
  let scale := exponent - 2
  let up := Nat.pow 2 scale.toNat
  { value := 4 * significand * up
    low := (4 * significand - if narrow then 1 else 2) * up
    high := (4 * significand + 2) * up
    denominator := Nat.pow 2 (-scale).toNat
    closed := significand % 2 = 0 }

/-- Whether `numerator / denominator` rounds to the double. -/
def contains (around : Neighbourhood) (numerator denominator : Nat) : Bool :=
  let point := numerator * around.denominator
  let low := around.low * denominator
  let high := around.high * denominator
  if around.closed then low ≤ point && point ≤ high else low < point && point < high

end Neighbourhood

/-- `digits` times ten to the `exponent`. -/
structure Decimal where
  digits : Nat
  exponent : Int
  deriving DecidableEq

namespace Decimal

def numerator (number : Decimal) : Nat := number.digits * Nat.pow 10 number.exponent.toNat

def denominator (number : Decimal) : Nat := Nat.pow 10 (-number.exponent).toNat

/-- Moves zeros at the end of the digits into the exponent. -/
def trimmed : Nat → Decimal → Decimal
  | 0, number => number
  | steps + 1, number =>
      if number.digits % 10 = 0 then trimmed steps ⟨number.digits / 10, number.exponent + 1⟩ else number

end Decimal

/-- How many digits stand before the point of a positive quotient; a quotient below one tenth
has a negative count. No positive double lies below ten to the -400. -/
def pointPosition (numerator denominator : Nat) : Int :=
  (Nat.toDigits 10 (numerator * Nat.pow 10 400 / denominator)).length - 400

/-- Of the two numbers with the given unit on either side of the double, the nearer one that
rounds to it; a tie goes to the even one. -/
def onGrid? (around : Neighbourhood) (unit : Int) : Option Decimal :=
  let up := Nat.pow 10 unit.toNat
  let down := Nat.pow 10 (-unit).toNat
  let scaled := around.value * down
  let step := around.denominator * up
  let below := scaled / step
  let twice := 2 * (scaled % step)
  let lower : Decimal := ⟨below, unit⟩
  let upper : Decimal := ⟨below + 1, unit⟩
  let lowerFits := around.contains lower.numerator lower.denominator
  let upperFits := around.contains upper.numerator upper.denominator
  if lowerFits && upperFits then
    if twice < step || (twice = step && below % 2 = 0) then some lower else some upper
  else if lowerFits then some lower
  else if upperFits then some upper
  else none

/-- Tries `count` digits, then more, until `left` attempts are used up. -/
def search (around : Neighbourhood) (position : Int) : Nat → Nat → Option Decimal
  | 0, _ => none
  | left + 1, count =>
      match onGrid? around (position - count) with
      | some number => some number
      | none => search around position left (count + 1)

/-- The shortest decimal number that rounds to the positive double. -/
def shortest (significand : Nat) (exponent : Int) : Decimal :=
  let around := Neighbourhood.ofExact significand exponent
  let found := search around (pointPosition around.value around.denominator) 17 1
  Decimal.trimmed 17 (found.getD ⟨0, 0⟩)

end TextGrammar.Binary64
