/-!
The exact value of a double: a sign, a whole number and a power of two. The
fields are read from the 64 bits, so no rounded operation is involved.
-/

namespace TextGrammar.Binary64

/-- A finite double is its sign times `significand` times two to the `exponent`. -/
inductive Exact where
  | finite (negative : Bool) (significand : Nat) (exponent : Int)
  | infinite (negative : Bool)
  | nan
  deriving DecidableEq

def signUnit : Nat := Nat.pow 2 63

def infinityBits : Nat := 2047 * Nat.pow 2 52

/-- The exponent of the least positive double. -/
def leastExponent : Int := -1074

def exactOfBits (bits : Nat) : Exact :=
  let negative := decide (signUnit ≤ bits)
  let field : Nat := bits / Nat.pow 2 52 % 2048
  let fraction : Nat := bits % Nat.pow 2 52
  if field = 2047 then if fraction = 0 then .infinite negative else .nan
  else if field = 0 then .finite negative fraction leastExponent
  else .finite negative (Nat.pow 2 52 + fraction) ((field : Int) - 1 + leastExponent)

def exact (x : Float) : Exact := exactOfBits x.toBits.toNat

def ofMagnitude (negative : Bool) (bits : Nat) : Float :=
  Float.ofBits (UInt64.ofNat (bits + if negative then signUnit else 0))

namespace Exact

/-- The whole part, the fraction dropped. -/
def truncated (negative : Bool) (significand : Nat) (exponent : Int) : Int :=
  let whole : Int :=
    if 0 ≤ exponent then significand * Nat.pow 2 exponent.toNat
    else ((significand / Nat.pow 2 (-exponent).toNat : Nat) : Int)
  if negative then -whole else whole

def isEven : Exact → Bool
  | .finite _ significand exponent =>
      if 1 ≤ exponent then true else significand % Nat.pow 2 (1 - exponent).toNat = 0
  | _ => false

end Exact

end TextGrammar.Binary64
