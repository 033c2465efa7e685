import TextGrammar.Binary64.Exact

/-!
The order of exact values. Two finite values are compared as whole multiples of
the smaller of their two powers of two, so nothing is rounded. What is not a
number compares with nothing.
-/

namespace TextGrammar.Binary64.Exact

def ofInt (number : Int) : Exact := .finite (number < 0) number.natAbs 0

/-- The value as a multiple of two to the `unit`, for a unit not above its exponent. -/
def multiple (negative : Bool) (significand : Nat) (exponent unit : Int) : Int :=
  let size : Int := significand * Nat.pow 2 (exponent - unit).toNat
  if negative then -size else size

def compare? : Exact → Exact → Option Ordering
  | .nan, _ => none
  | _, .nan => none
  | .infinite a, .infinite b => some (compare b.toNat a.toNat)
  | .infinite a, .finite .. => some (if a then .lt else .gt)
  | .finite .., .infinite b => some (if b then .gt else .lt)
  | .finite a m e, .finite b n f =>
      let unit := min e f
      some (compare (multiple a m e unit) (multiple b n f unit))

end TextGrammar.Binary64.Exact
